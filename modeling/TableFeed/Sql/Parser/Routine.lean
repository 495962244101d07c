import TableFeed.Sql.Parser.Block
import TableFeed.Sql.Parser.Modify

/-!
# Routines

Procedures, functions and triggers, each behind its keyword. Their bodies are blocks of
statements, or an expression.

    CREATE TRIGGER r  AFTER INSERT OR DELETE  ON t  FOR EACH ROW  BEGIN  DELETE FROM u;  END
                      └─period─┘ └─ events ┘                            └── block ───┘
-/

namespace TableFeed.Sql.RoutineReader

open Read

/-- Which way a parameter goes. -/
def direction : Read Unit := do
  let _ ← oneOf ["IN", "OUT", "INOUT"]

/-- The value of a parameter that is not given. -/
def defaultValue (g : Grammar) : Read Unit := do
  if ← symbol "=" then
    ignore g.anyExpr

/-! ### Procedures -/

/-- A parameter of a procedure. -/
def procedureParameter (g : Grammar) : Read Unit := do
  direction
  ignore identifier
  ignore g.fullType
  defaultValue g

/-- The parameters of a procedure behind the opening parenthesis. A comma may stand before the
closing one. -/
def procedureParameters (g : Grammar) : Read Unit := do
  let _ ← iterate false fun closed => do
    if closed then return none
    match ← peek 0 with
    | some (.word _) => procedureParameter g
    | _ => pure ()
    let comma ← symbol ","
    if ← symbol ")" then return some true
    unless comma do expected "',' or ')' after parameter definition"
    return some false

/-- A procedure. -/
def procedure (g : Grammar) : Read Unit := do
  ignore objectName
  if ← symbol "(" then
    unless ← symbol ")" do procedureParameters g
  if ← keyword "LANGUAGE" then
    ignore identifier
  expectKeyword "AS"
  BlockReader.block g ["END"]

/-! ### Functions -/

/-- A parameter of a function: a type with or without a name before it. Where two types follow
one another, the first one is the name. -/
def parameter (g : Grammar) : Read Unit := do
  direction
  let before ← rest
  ignore g.fullType
  let after ← rest
  unless ← isKeyword "DEFAULT" do
    if (← attempt g.fullType).isSome then
      let last := before.drop (before.length - after.length - 1)
      match last with
      | ⟨.word _, _, _⟩ :: _ => pure ()
      | _ => expectedAt "a name or type" last
  if ← keyword "DEFAULT" then
    ignore g.anyExpr
  else defaultValue g

/-- The clauses of a function that are single keywords, with the names of what they decide. -/
def traits : List (List String × String) :=
  [(["IMMUTABLE"], "IMMUTABLE | STABLE | VOLATILE"), (["STABLE"], "IMMUTABLE | STABLE | VOLATILE"),
    (["VOLATILE"], "IMMUTABLE | STABLE | VOLATILE"),
    (["CALLED", "ON", "NULL", "INPUT"],
      "CALLED ON NULL INPUT | RETURNS NULL ON NULL INPUT | STRICT"),
    (["RETURNS", "NULL", "ON", "NULL", "INPUT"],
      "CALLED ON NULL INPUT | RETURNS NULL ON NULL INPUT | STRICT"),
    (["STRICT"], "CALLED ON NULL INPUT | RETURNS NULL ON NULL INPUT | STRICT")]

/-- Takes the first of some traits that comes next, and names what it decides. -/
def trait : List (List String × String) → Read (Option String)
  | [] => return none
  | (words, decided) :: others => do
    if ← keywords words then return some decided
    trait others

/-- The text of a body. -/
def bodyText : Read Unit := do
  match ← peek 0 with
  | some (.dollar _ _) => skip
  | _ => ignore literalString

/-- A body as a text, with the name that it has in the library, behind `AS`. -/
def body : Read Unit := do
  bodyText
  if ← symbol "," then bodyText

/-- A clause of a function: what it decides and how that is named, and how the clause goes on. -/
def clause (g : Grammar) : Read (Option (String × String × Read Unit)) := do
  if ← keyword "AS" then return some ("body", "AS", body)
  if ← keyword "LANGUAGE" then return some ("language", "LANGUAGE", ignore identifier)
  if let some decided ← trait traits then return some (decided, decided, pure ())
  if ← keyword "PARALLEL" then
    return some ("parallel", "PARALLEL \x7b UNSAFE | RESTRICTED | SAFE \x7d", do
      if (← oneOf ["UNSAFE", "RESTRICTED", "SAFE"]).isNone then
        expected "one of UNSAFE | RESTRICTED | SAFE")
  if ← keyword "RETURN" then return some ("body", "RETURN", ignore g.anyExpr)
  return none

/-- The clauses of a function. Each decides something, and nothing is decided twice. -/
def clauses (g : Grammar) : Read Unit := do
  let _ ← iterate [] fun (decided : List String) => do
    match ← clause g with
    | none => return none
    | some (key, name, p) =>
      if decided.contains key then
        throw (.message (name ++ " specified more than once") none)
      p
      return some (key :: decided)

/-- A function with clauses in any order. -/
def functionOfClauses (g : Grammar) : Read Unit := do
  ignore objectName
  let _ ← inParens (commaSeparated0 (parameter g) ")")
  if ← keyword "RETURNS" then
    ignore g.fullType
  clauses g

/-- A parameter whose name begins it. -/
def namedParameter (g : Grammar) : Read Unit := do
  ignore identifier
  ignore g.fullType
  defaultValue g

/-- A table that a function returns under a name. -/
def namedResult (g : Grammar) : Read Unit := do
  ignore identifier
  expectKeyword "TABLE"
  let _ ← inParens (commaSeparated g.column)

/-- What a function returns, where its body is no block. -/
def returned (g : Grammar) : Read Unit := do
  if ← isSymbol "(" then
    ignore g.anyExpr
  else if ← isKeyword "SELECT" then
    let _ ← QueryReader.select g
  else failHere "Expected a subquery (or bare SELECT statement) after RETURN"

/-- A function whose body is a block or what it returns. -/
def functionOfBlock (g : Grammar) : Read Unit := do
  ignore objectName
  let _ ← inParens (commaSeparated0 (namedParameter g) ")")
  expectKeyword "RETURNS"
  if (← attempt (namedResult g)).isNone then
    ignore g.fullType
  ignore (keyword "AS")
  if ← isKeyword "BEGIN" then BlockReader.block g ["END"]
  else if ← keyword "RETURN" then returned g
  else failHere "Unparsable function body"

/-! ### Triggers -/

/-- When a trigger runs. -/
def period : Read Unit := do
  if (← expectOneOf ["FOR", "BEFORE", "AFTER", "INSTEAD"]) == "INSTEAD" then expectKeyword "OF"

/-- What makes a trigger run. -/
def event : Read Unit := do
  if (← expectOneOf ["INSERT", "UPDATE", "DELETE", "TRUNCATE"]) == "UPDATE" then
    if ← keyword "OF" then
      let _ ← commaSeparated identifier

/-- The names under which a trigger sees the rows before and after. -/
def referencing : Read Unit := do
  if ← keyword "REFERENCING" then
    let _ ← many do
      unless ← both (return (← oneOf ["OLD", "NEW"]).isSome) (keyword "TABLE") do return none
      ignore (keyword "AS")
      ignore objectName
      return some ()

/-- A routine by its name, and its parameters if several have the name. -/
def described (g : Grammar) : Read Unit := do
  ignore objectName
  if ← isSymbol "(" then ignore (inParens (commaSeparated0 (parameter g) ")"))

/-- The routine that a trigger runs, behind `EXECUTE`. -/
def executed (g : Grammar) : Read Unit := do
  ignore (expectOneOf ["FUNCTION", "PROCEDURE"])
  described g

/-- A trigger whose events come before its table. -/
def trigger (g : Grammar) : Read Unit := do
  ignore objectName
  let _ ← attempt period
  event
  let _ ← many (whenTaken (keyword "OR") event)
  expectKeyword "ON"
  ignore objectName
  if ← keyword "FROM" then ignore (orNothing objectName)
  ignore ConstraintReader.characteristics
  referencing
  if ← keyword "FOR" then
    ignore (keyword "EACH")
    let _ ← expectOneOf ["ROW", "STATEMENT"]
  if ← keyword "WHEN" then
    ignore g.anyExpr
  if ← keyword "EXECUTE" then executed g
  else BlockReader.block g ["END"]

/-- A trigger whose table comes before its events. -/
def tableTrigger (g : Grammar) : Read Unit := do
  ignore objectName
  expectKeyword "ON"
  ignore objectName
  period
  let _ ← commaSeparated event
  expectKeyword "AS"
  BlockReader.block g ["END"]

end TableFeed.Sql.RoutineReader
