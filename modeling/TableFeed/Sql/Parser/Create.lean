import TableFeed.Sql.Parser.AlterTable
import TableFeed.Sql.Parser.CreateOperator
import TableFeed.Sql.Parser.CreateType
import TableFeed.Sql.Parser.Routine

/-!
# `CREATE`

What is created decides the form. A table is read in full; of other objects only the form
counts.
-/

namespace TableFeed.Sql.CreateReader

open Read

/-- Takes a name. -/
def named : Read Unit := ignore identifier

/-- Takes a dotted name. -/
def object : Read Unit := ignore objectName

/-- A condition under which the object must not be there. -/
def ifNotExists : Read Bool := keywords ["IF", "NOT", "EXISTS"]

/-- A name behind a condition. -/
def newName : Read Unit := do
  ignore ifNotExists
  object

/-- A condition in parentheses behind its words, if these come next. -/
def condition (g : Grammar) (words : List String) : Read Unit := do
  if ← keywords words then ignore (inParens g.anyExpr)

/-! ### Views -/

/-- How a view is worked out and with whose rights. -/
def viewParameters : Read Unit := do
  if ← keyword "ALGORITHM" then
    expectSymbol "="
    ignore (expectOneOf ["UNDEFINED", "MERGE", "TEMPTABLE"])
  if ← keyword "DEFINER" then
    expectSymbol "="
    RoleReader.userName
  if ← keywords ["SQL", "SECURITY"] then ignore (expectOneOf ["DEFINER", "INVOKER"])

/-- Whether a view comes next. What comes behind `MATERIALIZED` is not looked at. -/
def isView : Read Bool := do
  let sequences := [["MATERIALIZED"], ["VIEW"], ["SECURE", "MATERIALIZED", "VIEW"], ["SECURE", "VIEW"]]
  return (← sequences.mapM areKeywords).any id

/-- A column of a view, with its options and its type if it has one. -/
def viewColumn (g : Grammar) : Read Unit := do
  named
  ignore (many (ColumnReader.columnOption g))
  if ← allows Rules.typedViewColumns then ignore g.fullType

/-- The columns of a view. -/
def viewColumns (g : Grammar) : Read Unit := do
  if ← isSymbol "(" then ignore (inParens (commaSeparated0 (viewColumn g) ")"))

/-- What stands between the columns of a view and its query. -/
def viewOptions (g : Grammar) : Read Unit := do
  let rules ← rules
  ignore (PropertyReader.properties g ["WITH"])
  if ← keyword "CLUSTER" then
    expectKeyword "BY"
    ignore (columnNames true false)
  if rules.optionLists then ignore (PropertyReader.properties g ["OPTIONS"])
  if ← only rules.derivedColumns (keyword "TO") then object
  if ← only rules.viewNotes (keyword "COMMENT") then
    expectSymbol "="
    ignore commentText

/-- A view. -/
def view (g : Grammar) : Read Unit := do
  ignore (keyword "SECURE")
  ignore (keyword "MATERIALIZED")
  expectKeyword "VIEW"
  let before ← ifNotExists
  object
  unless before do ignore ifNotExists
  viewColumns g
  viewOptions g
  expectKeyword "AS"
  ignore g.query
  if ← allows Rules.viewNotes then ignore (keywords ["WITH", "NO", "SCHEMA", "BINDING"])

/-! ### Indexes and virtual tables -/

/-- The name of an index, which may be missing, and `ON`. -/
def indexName : Read Unit := do
  let conditional ← ifNotExists
  unless ← only (!conditional) (keyword "ON") do
    object
    ignore ConstraintReader.usingIndex
    expectKeyword "ON"

/-- An index, behind `INDEX`. -/
def index (g : Grammar) : Read Unit := do
  ignore (keyword "CONCURRENTLY")
  indexName
  object
  ignore ConstraintReader.usingIndex
  ignore (ConstraintReader.indexColumns g)
  if ← keyword "INCLUDE" then ignore parenthesizedNames
  ConstraintReader.nullsDistinct
  if ← only (← allows Rules.indexProperties) (keyword "WITH") then ignore (inParens g.exprs)
  if ← keyword "WHERE" then ignore g.anyExpr
  ConstraintReader.indexOptions
  ignore (many (choose AlterTableReader.concurrency))

/-- A table whose rows are kept elsewhere, behind `VIRTUAL`. -/
def virtualTable : Read Unit := do
  expectKeyword "TABLE"
  newName
  expectKeyword "USING"
  named
  ignore (columnNames true false)

/-! ### Schemas and the like -/

/-- An object that the new one begins as a copy of. -/
def clone : Read Unit := do
  if ← keyword "CLONE" then object

/-- A schema, behind `SCHEMA`. -/
def schema (g : Grammar) : Read Unit := do
  ignore ifNotExists
  if ← keyword "AUTHORIZATION" then named
  else
    object
    if ← keyword "AUTHORIZATION" then named
  if ← keywords ["DEFAULT", "COLLATE"] then ignore g.anyExpr
  ignore (PropertyReader.properties g ["WITH"])
  ignore (PropertyReader.properties g ["OPTIONS"])
  clone

/-- A database, behind `DATABASE`. -/
def database : Read Unit := do
  newName
  ignore (many do
    if (← oneOf ["LOCATION", "MANAGEDLOCATION"]).isSome then return some (← literalString)
    return none)
  clone

/-- A sequence, behind `SEQUENCE`. -/
def sequence (g : Grammar) : Read Unit := do
  newName
  if ← keyword "AS" then ignore g.fullType
  ignore ColumnReader.sequenceOptions
  if ← keywords ["OWNED", "BY"] then
    unless ← keyword "NONE" do object

/-- A type with conditions on its values, behind `DOMAIN`. -/
def domain (g : Grammar) : Read Unit := do
  object
  expectKeyword "AS"
  ignore g.fullType
  if ← keyword "COLLATE" then named
  if ← keyword "DEFAULT" then ignore g.anyExpr
  ignore (many (ConstraintReader.constraint g))

/-! ### Additions to a database -/

/-- A policy, behind `POLICY`. -/
def policy (g : Grammar) : Read Unit := do
  named
  expectKeyword "ON"
  object
  if ← keyword "AS" then ignore (expectOneOf ["PERMISSIVE", "RESTRICTIVE"])
  if ← keyword "FOR" then ignore (expectOneOf ["ALL", "SELECT", "INSERT", "UPDATE", "DELETE"])
  if ← keyword "TO" then ignore (commaSeparated RoleReader.owner)
  condition g ["USING"]
  condition g ["WITH", "CHECK"]

/-- An extension, behind `EXTENSION`. -/
def extension : Read Unit := do
  ignore ifNotExists
  named
  if ← keyword "WITH" then
    if ← keyword "SCHEMA" then named
    if ← keyword "VERSION" then named
    ignore (keyword "CASCADE")

/-- A connector, behind `CONNECTOR`. -/
def connector (g : Grammar) : Read Unit := do
  ignore ifNotExists
  named
  if ← keyword "TYPE" then ignore literalString
  if ← keyword "URL" then ignore literalString
  if ← keyword "COMMENT" then
    ignore (symbol "=")
    ignore commentText
  if ← keywords ["WITH", "DCPROPERTIES"] then
    ignore (inParens (commaSeparated (PropertyReader.property g)))

/-- A key and its value, both of them names. -/
def setting : Read Unit := do
  named
  named

/-- A server, behind `SERVER`. -/
def server : Read Unit := do
  newName
  if ← keyword "TYPE" then named
  if ← keyword "VERSION" then named
  expectKeywords ["FOREIGN", "DATA", "WRAPPER"]
  object
  if ← keyword "OPTIONS" then ignore (inParens (commaSeparated setting))

/-- The name of a secret and where it is kept; each may be missing. -/
def secretName : Read Unit := do
  unless ← isSymbol "(" do
    let stored ← do
      if ← keyword "IN" then pure (← orNothing identifier).isSome
      else
        ignore (orNothing identifier)
        pure false
    if ← only (!stored) (keyword "IN") then ignore (orNothing identifier)

/-- A secret, behind `SECRET`. -/
def secret : Read Unit := do
  ignore ifNotExists
  secretName
  inParens do
    expectKeyword "TYPE"
    named
    if ← symbol "," then ignore (commaSeparated setting)

/-- An argument of a macro, with its value if it has one. -/
def argument (g : Grammar) : Read Unit := do
  named
  if ← either (symbol ":=") (symbol "=>") then ignore g.anyExpr

/-- A macro, behind `MACRO`. -/
def shorthand (g : Grammar) : Read Unit := do
  object
  ignore (inParens (commaSeparated0 (argument g) ")"))
  expectKeyword "AS"
  if ← keyword "TABLE" then ignore g.query else ignore g.anyExpr

/-! ### All of them -/

/-- The objects that may be replaced, besides tables and views, and whether the dialect has
them. -/
def replaceable (g : Grammar) (rules : Rules) : List (List String × Bool × Read Unit) :=
  [(["POLICY"], true, policy g),
    (["FUNCTION"], rules.functionClauses || rules.functionBlocks,
      if rules.functionBlocks then RoutineReader.functionOfBlock g
      else RoutineReader.functionOfClauses g),
    (["DOMAIN"], true, domain g), (["TRIGGER"], rules.triggers, RoutineReader.trigger g),
    (["CONSTRAINT", "TRIGGER"], rules.triggers, RoutineReader.trigger g),
    (["MACRO"], rules.macros, shorthand g), (["SECRET"], true, secret),
    (["USER"], true, RoleReader.createUser)]

/-- The objects that may not. -/
def others (g : Grammar) : List (List String × Bool × Read Unit) :=
  [(["EXTENSION"], true, extension), (["INDEX"], true, index g),
    (["UNIQUE", "INDEX"], true, index g), (["VIRTUAL"], true, virtualTable),
    (["SCHEMA"], true, schema g), (["DATABASE"], true, database),
    (["ROLE"], true, RoleReader.create), (["SEQUENCE"], true, sequence g),
    (["TYPE"], true, CreateTypeReader.create g), (["PROCEDURE"], true, RoutineReader.procedure g),
    (["CONNECTOR"], true, connector g), (["OPERATOR"], true, CreateOperatorReader.create g),
    (["SERVER"], true, server)]

/-- Reads on behind the first of some words that come next, and says whether any do. An object
that the dialect does not have is refused at its last word. -/
def select : List (List String × Bool × Read Unit) → Read Bool
  | [] => return false
  | (words, allowed, p) :: others => do
    let here ← rest
    if ← keywords words then
      unless allowed do expectedAt "an object type after CREATE" (here.drop (words.length - 1))
      p
      return true
    select others

/-- `CREATE` -/
def create (g : Grammar) : Read Statement := do
  let rules ← rules
  if ← only rules.tableTriggers (anyOf [["TRIGGER"], ["OR", "ALTER", "TRIGGER"]]) then
    RoutineReader.tableTrigger g
    return .other "CREATE"
  let replaces ← keywords ["OR", "REPLACE"]
  ignore (keywords ["OR", "ALTER"])
  ignore (keyword "LOCAL")
  ignore (keyword "GLOBAL")
  ignore (keyword "TRANSIENT")
  ignore (oneOf ["TEMP", "TEMPORARY"])
  viewParameters
  if ← keyword "TABLE" then return .createTable (← TableReader.createTable g)
  if ← isView then
    view g
    return .other "CREATE"
  if ← keyword "EXTERNAL" then return .createTable (← TableReader.createExternal g)
  if ← select (replaceable g rules) then return .other "CREATE"
  if replaces then
    expected "[EXTERNAL] TABLE or [MATERIALIZED] VIEW or FUNCTION after CREATE OR REPLACE"
  if ← select (others g) then return .other "CREATE"
  expected "an object type after CREATE"

end TableFeed.Sql.CreateReader
