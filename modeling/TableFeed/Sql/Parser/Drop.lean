import TableFeed.Sql.Parser.Routine

/-!
# `DROP`

Most objects are dropped by their names alone, several at once; the other kinds have forms of
their own. Only a table that is dropped is kept.

    DROP OPERATOR < (INT, INT), - (NONE, INT) CASCADE
-/

namespace TableFeed.Sql.DropReader

open Read

/-- What becomes of objects that need the dropped one. -/
def behavior : Read Unit := ignore (oneOf ["CASCADE", "RESTRICT"])

/-- A condition under which the object need not be there. -/
def ifExists : Read Bool := keywords ["IF", "EXISTS"]

/-- An operator with the types of its operands, of which the left one may be missing. -/
def operator (g : Grammar) : Read Unit := do
  operatorName
  ignore (inParens do
    unless ← keyword "NONE" do ignore g.fullType
    expectSymbol ","
    g.fullType)

/-- Families or classes of operators. -/
def operatorGroup : Read Unit := do
  ignore (commaSeparated objectName)
  expectKeyword "USING"
  ignore identifier
  behavior

/-- Routines. -/
def routines (g : Grammar) : Read Unit := do
  ignore (commaSeparated (RoutineReader.described g))
  behavior

/-- A policy of a table. -/
def policy : Read Unit := do
  ignore identifier
  expectKeyword "ON"
  ignore objectName
  behavior

/-- A secret. -/
def secret : Read Unit := do
  ignore identifier
  if ← keyword "FROM" then ignore (orNothing identifier)

/-- A trigger. -/
def trigger : Read Unit := do
  ignore objectName
  if ← keyword "ON" then ignore objectName
  behavior

/-- Extensions. -/
def extensions : Read Unit := do
  ignore (commaSeparated identifier)
  behavior

/-- The objects whose removal has a form of its own, read behind the condition. -/
def special (g : Grammar) : List (List String × Read Unit) :=
  [(["FUNCTION"], routines g), (["POLICY"], policy), (["CONNECTOR"], ignore identifier),
    (["DOMAIN"], do ignore objectName; behavior), (["PROCEDURE"], routines g),
    (["SECRET"], secret), (["TRIGGER"], trigger), (["EXTENSION"], extensions),
    (["OPERATOR", "FAMILY"], operatorGroup), (["OPERATOR", "CLASS"], operatorGroup),
    (["OPERATOR"], do ignore (commaSeparated (operator g)); behavior)]

/-- Drops the first of some objects whose words come next, and says whether any do. A trigger is
refused where the dialect has none. -/
def dropSpecial : List (List String × Read Unit) → Read Bool
  | [] => return false
  | (words, p) :: others => do
    let here ← rest
    if ← keywords words then
      let triggers ← allows Rules.triggers
      if words == ["TRIGGER"] && !triggers then expectedAt "an object type after DROP" here
      ignore ifExists
      p
      return true
    dropSpecial others

/-- The kinds of objects that are dropped by their names alone. -/
def namedObjects : List (List String) :=
  [["TABLE"], ["VIEW"], ["MATERIALIZED", "VIEW"], ["INDEX"], ["ROLE"], ["SCHEMA"], ["DATABASE"],
    ["SEQUENCE"], ["STAGE"], ["TYPE"], ["USER"], ["STREAM"]]

/-- Objects of a kind that are dropped by their names alone. -/
def dropNamed (kind : List String) : Read Statement := do
  let ifExists ← ifExists
  let names ← commaSeparated objectName
  let here ← rest
  let cascade ← keyword "CASCADE"
  let restrict ← keyword "RESTRICT"
  let purge ← keyword "PURGE"
  if cascade && restrict then failAt "Cannot specify both CASCADE and RESTRICT in DROP" here
  if kind == ["ROLE"] && (cascade || restrict || purge) then
    failAt "Cannot specify CASCADE, RESTRICT, or PURGE in DROP ROLE" here
  if ← keyword "ON" then ignore objectName
  if kind == ["TABLE"] then return .dropTable { names, ifExists, cascade }
  return .other "DROP"

/-- `DROP` -/
def drop (g : Grammar) : Read Statement := do
  if ← allows Rules.dropTemporary then ignore (keyword "TEMPORARY")
  match ← firstOf namedObjects with
  | some kind => dropNamed kind
  | none =>
    if ← dropSpecial (special g) then return .other "DROP"
    expected ("CONNECTOR, DATABASE, EXTENSION, FUNCTION, INDEX, OPERATOR, POLICY, PROCEDURE, " ++
      "ROLE, SCHEMA, SECRET, SEQUENCE, STAGE, TABLE, TRIGGER, TYPE, VIEW, MATERIALIZED VIEW " ++
      "or USER after DROP")

end TableFeed.Sql.DropReader
