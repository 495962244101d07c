import TableFeed.Sql.Parser.AlterTable

/-!
# `ALTER`

What is changed decides the form. A table has many changes of its own; those of other objects
are few.
-/

namespace TableFeed.Sql.AlterReader

open Read

/-- Changes by their first words. -/
abbrev Changes : Type := AlterTableReader.Changes

/-- Takes a name. -/
def named : Read Unit := ignore identifier

/-- Takes a dotted name. -/
def object : Read Unit := ignore objectName

/-- A new query for a view, behind `VIEW`. -/
def view (g : Grammar) : Read Unit := do
  object
  ignore (columnNames true false)
  ignore (PropertyReader.properties g ["WITH"])
  expectKeyword "AS"
  ignore g.query

/-- A new value of an enumeration and its place among the others. -/
def newValue : Read Unit := do
  ignore (keywords ["IF", "NOT", "EXISTS"])
  named
  if (← oneOf ["BEFORE", "AFTER"]).isSome then named

/-- A change of a type, behind `TYPE`. -/
def type : Read Unit := do
  object
  let changes : Changes :=
    [(["RENAME", "TO"], true, named), (["ADD", "VALUE"], true, newValue),
      (["RENAME", "VALUE"], true, AlterTableReader.renamed)]
  if (← choose changes).isNone then
    expected "\x7bRENAME TO | \x7b RENAME | ADD \x7d VALUE\x7d"

/-- A change of an index, behind `INDEX`. -/
def index : Read Unit := do
  object
  unless ← keyword "RENAME" do expected "RENAME after ALTER INDEX"
  unless ← keyword "TO" do expected "TO after RENAME"
  object

/-- The conditions of a policy. -/
def policyConditions (g : Grammar) : Read Unit := do
  if ← keyword "TO" then ignore (commaSeparated RoleReader.owner)
  if ← keyword "USING" then ignore (inParens g.anyExpr)
  if ← keywords ["WITH", "CHECK"] then ignore (inParens g.anyExpr)

/-- A change of a policy, behind `POLICY`. -/
def policy (g : Grammar) : Read Unit := do
  named
  expectKeyword "ON"
  object
  if ← keyword "RENAME" then
    expectKeyword "TO"
    named
  else policyConditions g

/-- A change of a connector, behind `CONNECTOR`. -/
def connector (g : Grammar) : Read Unit := do
  named
  expectKeyword "SET"
  if ← keyword "DCPROPERTIES" then
    ignore (inParens (commaSeparated (PropertyReader.property g)))
  if ← keyword "URL" then ignore literalString
  if ← anyOf [["OWNER", "USER"], ["OWNER", "ROLE"]] then named

/-- A change of a schema, behind `SCHEMA`. -/
def schema (g : Grammar) : Read Unit := do
  ignore (keywords ["IF", "EXISTS"])
  object
  let options : Read Unit := ignore (PropertyReader.properties g ["OPTIONS"])
  let changes : Changes :=
    [(["SET", "OPTIONS"], true, ignore (inParens (commaSeparated0 (PropertyReader.property g) ")"))),
      (["SET", "DEFAULT", "COLLATE"], true, ignore g.anyExpr),
      (["ADD", "REPLICA"], true, do named; options), (["DROP", "REPLICA"], true, named),
      (["RENAME", "TO"], true, object), (["OWNER", "TO"], true, RoleReader.owner)]
  if (← choose changes).isNone then expected "ALTER SCHEMA operation"

/-- `ALTER` -/
def alter (g : Grammar) : Read Unit := do
  match ← expectOneOf ["VIEW", "TYPE", "TABLE", "INDEX", "ROLE", "POLICY", "CONNECTOR",
    "ICEBERG", "SCHEMA", "USER"] with
  | "VIEW" => view g
  | "TYPE" => type
  | "INDEX" => index
  | "ROLE" => RoleReader.change g
  | "POLICY" => policy g
  | "CONNECTOR" => connector g
  | "SCHEMA" => schema g
  | "USER" => RoleReader.changeUser
  | "ICEBERG" =>
    expectKeyword "TABLE"
    AlterTableReader.table g
  | _ => AlterTableReader.table g

end TableFeed.Sql.AlterReader
