import TableFeed.Sql.Parser.Pipe

/-!
# `SHOW`

Lists of columns, tables, views and databases may be narrowed down; anything else that is shown
is the value of a variable, whose name is any number of words.

    SHOW FULL TABLES FROM d LIKE 'a%'        SHOW search_path
-/

namespace TableFeed.Sql.ShowReader

open Read

/-- A condition on the names or the rows that are shown. -/
def filter (g : Grammar) : Read Unit := do
  if (← oneOf ["LIKE", "ILIKE"]).isSome then ignore literalString
  else if ← keyword "WHERE" then ignore g.anyExpr
  else ignore (attempt literalString)

/-- Whether something follows that leaves out the name of a database or schema. -/
def leavesOut : Read Bool := do
  return (← areKeywords ["STARTS", "WITH"]) || (← isKeyword "LIMIT")

/-- Where the objects are. -/
def place : Read Unit := do
  if (← oneOf ["FROM", "IN"]).isNone then return
  match ← oneOf ["ACCOUNT", "DATABASE", "SCHEMA", "TABLE", "VIEW"] with
  | some kind =>
    unless ["DATABASE", "SCHEMA"].contains kind && (← leavesOut) do ignore (attempt objectName)
  | none =>
    ignore objectName
    if (← oneOf ["FROM", "IN"]).isSome then ignore identifier

/-- What narrows a list down. -/
def options (g : Grammar) : Read Unit := do
  place
  filter g
  if ← keywords ["STARTS", "WITH"] then ignore value
  if ← keyword "LIMIT" then
    unless ← keyword "ALL" do ignore g.anyExpr
  if ← keyword "FROM" then ignore value

/-- Databases or schemas. -/
def databases (g : Grammar) : Read Unit := do
  ignore (keyword "HISTORY")
  options g

/-- The statement that makes an object. -/
def creation : Read Unit := do
  ignore (expectOneOf ["TABLE", "TRIGGER", "FUNCTION", "PROCEDURE", "EVENT", "VIEW"])
  ignore objectName

/-- `SHOW` -/
def showing (g : Grammar) : Read Unit := do
  ignore (keyword "TERSE")
  let extended ← keyword "EXTENDED"
  let full ← keyword "FULL"
  ignore (keyword "SESSION")
  ignore (keyword "GLOBAL")
  ignore (keyword "EXTERNAL")
  let lists := ([["COLUMNS"], ["FIELDS"], ["TABLES"], ["MATERIALIZED", "VIEWS"],
    ["VIEWS"]] : List (List String)).map fun words => (words, true, options g)
  if (← choose (lists ++ [(["FUNCTIONS"], true, filter g)])).isSome then return
  if extended || full then
    throw (.message "EXTENDED/FULL are not supported with this type of SHOW query" none)
  let filtered ← allows Rules.listedSettings
  if (← choose [(["CREATE"], true, creation), (["COLLATION"], true, filter g),
      (["VARIABLES"], filtered, filter g), (["STATUS"], filtered, filter g),
      (["CHARSET"], true, filter g), (["CHARACTER", "SET"], true, filter g),
      (["DATABASES"], true, databases g), (["SCHEMAS"], true, databases g)]).isNone then
    ignore PipeReader.names

end TableFeed.Sql.ShowReader
