import TableFeed.Sql.Parser.Query

/-!
# Constraints

What the rows of a table must satisfy. A constraint may be written behind a column or apart from
the columns; the parts that both forms share come first. They are kept as text, because an
option of a column is shown where columns stand inside a type.
-/

namespace TableFeed.Sql.ConstraintReader

open Read

/-! ### Parts of constraints -/

/-- The parts of a constraint that say how late and whether it is enforced; each may be given
once. -/
structure Enforcement where
  deferrable : Option String := none
  initially : Option String := none
  enforced : Option String := none

/-- The parts that are given, as they are shown. -/
def Enforcement.text (e : Enforcement) : String :=
  "".intercalate ([e.deferrable, e.initially, e.enforced].filterMap fun s => s.map (" " ++ ·))

/-- How late and whether a constraint is enforced. -/
def characteristics : Read String := do
  let found ← iterate {} fun (e : Enforcement) => do
    if ← only e.deferrable.isNone (keywords ["NOT", "DEFERRABLE"]) then
      return some { e with deferrable := some "NOT DEFERRABLE" }
    if ← only e.deferrable.isNone (keyword "DEFERRABLE") then
      return some { e with deferrable := some "DEFERRABLE" }
    if ← only e.initially.isNone (keyword "INITIALLY") then
      match ← oneOf ["DEFERRED", "IMMEDIATE"] with
      | some k => return some { e with initially := some ("INITIALLY " ++ k) }
      | none => expected "one of DEFERRED or IMMEDIATE"
    if ← only e.enforced.isNone (keyword "ENFORCED") then
      return some { e with enforced := some "ENFORCED" }
    if ← only e.enforced.isNone (keywords ["NOT", "ENFORCED"]) then
      return some { e with enforced := some "NOT ENFORCED" }
    return none
  return found.text

/-- What happens to rows that refer to a row that goes. -/
def referentialAction : Read String := do
  match ← firstOf [["RESTRICT"], ["CASCADE"], ["SET", "NULL"], ["NO", "ACTION"],
    ["SET", "DEFAULT"]] with
  | some ks => return " ".intercalate ks
  | none => expected "one of RESTRICT, CASCADE, SET NULL, NO ACTION or SET DEFAULT"

/-- The parts of a reference to another table; each may be given once. -/
structure Reference where
  matching : Option String := none
  deletion : Option String := none
  update : Option String := none

/-- What follows the table that a foreign key refers to. -/
def references : Read String := do
  let found ← iterate {} fun (r : Reference) => do
    if ← only r.matching.isNone (keyword "MATCH") then
      match ← oneOf ["FULL", "PARTIAL", "SIMPLE"] with
      | some k => return some { r with matching := some (" MATCH " ++ k) }
      | none => expected "one of FULL, PARTIAL or SIMPLE"
    if ← only r.deletion.isNone (keywords ["ON", "DELETE"]) then
      return some { r with deletion := some (" ON DELETE " ++ (← referentialAction)) }
    if ← only r.update.isNone (keywords ["ON", "UPDATE"]) then
      return some { r with update := some (" ON UPDATE " ++ (← referentialAction)) }
    return none
  let shown := [found.matching, found.deletion, found.update].filterMap id
  return "".intercalate shown ++ (← characteristics)

/-- The table that a foreign key refers to, behind `REFERENCES`. -/
def referenced : Read String := do
  let table ← objectName
  let columns ← columnNames true false
  let shown := if columns.isEmpty then "" else " (" ++ PropertyReader.showNames columns ++ ")"
  return "REFERENCES " ++ renderName table ++ shown ++ (← references)

/-- The kind of an index. -/
def usingIndex : Read Bool := do
  if ← keyword "USING" then
    ignore identifier
    return true
  return false

/-- The options of an index. -/
def indexOptions : Read Unit := do
  ignore (many do
    if ← usingIndex then return some ()
    if ← keyword "COMMENT" then
      ignore literalString
      return some ()
    return none)

/-- A column of an index: an expression with a class of operators and an order. -/
def indexColumn (g : Grammar) : Read Expr := do
  let e ← g.anyExpr
  unless ["ASC", "DESC", "NULLS", "WITH"].contains (← keywordAt 0) do
    ignore (attempt objectName)
  ignore CallReader.orderOptions
  ignore (CallReader.withFill g)
  return e

/-- The columns of an index in parentheses. -/
def indexColumns (g : Grammar) : Read (List Expr) := columnList (indexColumn g) false false

/-- Whether nulls count as different from one another. -/
def nullsDistinct : Read Unit := do
  if ← keyword "NULLS" then
    ignore (keyword "NOT")
    expectKeyword "DISTINCT"

/-- The columns of a key with what stands around them. -/
def keyColumns (g : Grammar) : Read (List Expr) := do
  ignore identifier?
  ignore usingIndex
  let columns ← indexColumns g
  indexOptions
  ignore characteristics
  return columns

/-! ### Constraints of a table -/

/-- A constraint on the table, if one comes next. -/
def constraint (g : Grammar) : Read (Option TableConstraint) := do
  let name ← whenTaken (keyword "CONSTRAINT") identifier
  let rules ← rules
  let key ← keywordAt 0
  match key with
  | "UNIQUE" =>
    skip
    let kind ← oneOf ["KEY", "INDEX"]
    if kind.isSome && !rules.indexConstraints then
      expected "\x60index_name\x60 or \x60(column_name [, ...])\x60"
    nullsDistinct
    return some (.unique (← keyColumns g))
  | "PRIMARY" =>
    skip
    expectKeyword "KEY"
    return some (.primaryKey (← keyColumns g))
  | "FOREIGN" =>
    skip
    expectKeyword "KEY"
    ignore identifier?
    ignore (columnNames false false)
    expectKeyword "REFERENCES"
    ignore referenced
    return some .foreignKey
  | "CHECK" =>
    skip
    ignore (inParens g.anyExpr)
    unless ← keyword "ENFORCED" do ignore (keywords ["NOT", "ENFORCED"])
    return some .check
  | _ =>
    if ["INDEX", "KEY"].contains key && rules.indexConstraints && name.isNone then
      skip
      unless ← isKeyword "USING" do ignore identifier?
      ignore usingIndex
      ignore (indexColumns g)
      indexOptions
      return some .index
    else if ["FULLTEXT", "SPATIAL"].contains key && rules.indexConstraints then
      match name with
      | some n =>
        let here ← rest
        failAt ("Expected: FULLTEXT or SPATIAL option without constraint name, found: " ++
          n.render) here
      | none =>
        skip
        ignore (oneOf ["KEY", "INDEX"])
        ignore identifier?
        ignore (indexColumns g)
        return some .fulltextOrSpatial
    else if name.isSome then expected "PRIMARY, UNIQUE, FOREIGN, or CHECK"
    else return none

end TableFeed.Sql.ConstraintReader
