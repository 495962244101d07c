import TableFeed.Sql.Parser.Column

/-!
# `CREATE TABLE`

Columns, constraints, and the many clauses that may follow the list of columns. The clauses are
read for their form only.
-/

namespace TableFeed.Sql.TableReader

open Read

/-! ### Columns and constraints -/

/-- Columns and constraints that have been read, newest first. -/
structure Elements where
  columns : List Column := []
  constraints : List TableConstraint := []
  finished : Bool := false

/-- The columns and constraints of a table in parentheses, if they are given. -/
def elements (g : Grammar) : Read Elements := do
  unless ← symbol "(" do return {}
  if ← symbol ")" then return {}
  iterate {} fun (e : Elements) => do
    if e.finished then return none
    let e ← do
      match ← ConstraintReader.constraint g with
      | some c => pure { e with constraints := c :: e.constraints }
      | none =>
        match ← peek 0 with
        | some (.word _) => pure { e with columns := (← ColumnReader.column g) :: e.columns }
        | _ => expected "column name or constraint definition"
    let comma ← symbol ","
    let closes ← isSymbol ")"
    if !comma && !closes then expected "',' or ')' after column definition"
    if closes && !comma then
      skip
      return some { e with finished := true }
    return some e

/-! ### How rows are stored -/

/-- A mark that ends a part of a row, behind words of which the first is taken in any case. The
answer says whether it was there. -/
def delimiter : List (String × List String) → Read Bool
  | [] => return false
  | (first, others) :: more => do
    if ← keyword first then
      unless ← keywords others do return false
      ignore identifier
      if ← only (first == "FIELDS") (keywords ["ESCAPED", "BY"]) then ignore identifier
      return true
    delimiter more

/-- How the rows of a file are written, behind `ROW`. -/
def rowFormat : Read Unit := do
  expectKeyword "FORMAT"
  match ← oneOf ["SERDE", "DELIMITED"] with
  | some "SERDE" => ignore literalString
  | _ =>
    ignore (many do
      let found ← delimiter
        [("FIELDS", ["TERMINATED", "BY"]), ("COLLECTION", ["ITEMS", "TERMINATED", "BY"]),
          ("MAP", ["KEYS", "TERMINATED", "BY"]), ("LINES", ["TERMINATED", "BY"]),
          ("NULL", ["DEFINED", "AS"])]
      return if found then some () else none)

/-- The format of a file. -/
def fileFormat : Read Unit := do
  if (← oneOf ["AVRO", "JSONFILE", "ORC", "PARQUET", "RCFILE", "SEQUENCEFILE", "TEXTFILE"]).isNone
  then refuse "fileformat"

/-- A part of how and where a table is stored. -/
def storagePart (g : Grammar) : Read Bool := do
  if ← keyword "ROW" then
    rowFormat
    return true
  if ← keyword "STORED" then
    expectKeyword "AS"
    if ← keyword "INPUTFORMAT" then
      ignore g.anyExpr
      expectKeyword "OUTPUTFORMAT"
      ignore g.anyExpr
    else fileFormat
    return true
  if ← keyword "LOCATION" then
    ignore literalString
    return true
  if ← keywords ["WITH", "SERDEPROPERTIES"] then
    ignore (inParens (commaSeparated (PropertyReader.property g)))
    return true
  return false

/-- How and where a table is stored. -/
def storage (g : Grammar) : Read Unit := do
  ignore (many do return if ← storagePart g then some () else none)

/-! ### Options without parentheses -/

/-- The keys of the options that are written without parentheses. -/
def plainKeys : List (List String) :=
  [["DEFAULT", "CHARSET"], ["CHARSET"], ["DEFAULT", "CHARACTER", "SET"], ["CHARACTER", "SET"],
    ["DEFAULT", "COLLATE"], ["COLLATE"], ["DATA", "DIRECTORY"], ["INDEX", "DIRECTORY"],
    ["KEY_BLOCK_SIZE"], ["ROW_FORMAT"], ["PACK_KEYS"], ["STATS_AUTO_RECALC"],
    ["STATS_PERSISTENT"], ["STATS_SAMPLE_PAGES"], ["DELAY_KEY_WRITE"], ["COMPRESSION"],
    ["ENCRYPTION"], ["MAX_ROWS"], ["MIN_ROWS"], ["AUTOEXTEND_SIZE"], ["AVG_ROW_LENGTH"],
    ["CHECKSUM"], ["CONNECTION"], ["ENGINE_ATTRIBUTE"], ["PASSWORD"],
    ["SECONDARY_ENGINE_ATTRIBUTE"], ["INSERT_METHOD"], ["AUTO_INCREMENT"]]

/-- The text of a comment. The message about anything else names no place. -/
def commentOption : Read Unit := do
  ignore (symbol "=")
  match ← next with
  | some (.quoted .single _) => return
  | t =>
    let found := (t.map Token.text).getD "EOF"
    throw (.message ("Expected: Token::SingleQuotedString, found: " ++ found) none)

/-- The engine that keeps a table. -/
def engineOption : Read Unit := do
  ignore (symbol "=")
  match ← peek 0 with
  | some (.word _) =>
    skip
    if ← isSymbol "(" then ignore (inParens (commaSeparated0 identifier ")"))
  | _ => refuse "Token::Word"

/-- The space that a table is kept in. -/
def spaceOption : Read Unit := do
  ignore (symbol "=")
  match ← peek 0 with
  | some (.word _) | some (.quoted .single _) =>
    skip
    if ← keyword "STORAGE" then
      ignore (symbol "=")
      match ← peek 0 with
      | some (.word w) =>
        if ["DISK", "MEMORY"].contains (Text.raised w.text) then skip
        else refuse "Storage type (DISK or MEMORY)"
      | _ => refuse "Token::Word"
  | _ => refuse "Token::Word"

/-- The tables that a table unites. -/
def unionOption : Read Unit := do
  ignore (symbol "=")
  unless ← isSymbol "(" do refuse "Token::LParen"
  ignore (inParens (commaSeparated0 identifier ")"))

/-- An option that is written without parentheses, if one comes next. -/
def plainOption : Read Bool := do
  if ← keywords ["START", "TRANSACTION"] then return true
  if ← keyword "COMMENT" then
    commentOption
    return true
  if ← keyword "ENGINE" then
    engineOption
    return true
  if ← keyword "TABLESPACE" then
    spaceOption
    return true
  if ← keyword "UNION" then
    unionOption
    return true
  if ← anyOf plainKeys then
    ignore (symbol "=")
    if (← attempt value).isNone then ignore identifier
    return true
  return false

/-- The options of a table that are written without parentheses. -/
def plainOptions : Read Unit := do
  ignore (many do
    unless ← plainOption do return none
    ignore (symbol ",")
    return some ())

/-! ### What follows the columns -/

/-- How a table is kept. Options without parentheses are given only where no others are. -/
def configuration (g : Grammar) : Read Unit := do
  let rules ← rules
  if ← keyword "INHERITS" then ignore (columnList objectName false false)
  let withOptions ← PropertyReader.properties g ["WITH"]
  let properties ← PropertyReader.properties g ["TBLPROPERTIES"]
  if ← only rules.partitionBy (keywords ["PARTITION", "BY"]) then ignore g.anyExpr
  if ← only rules.optionLists (keywords ["CLUSTER", "BY"]) then ignore g.exprs
  let listed ← only rules.optionLists (isKeyword "OPTIONS")
  if listed then ignore (PropertyReader.properties g ["OPTIONS"])
  if withOptions.isEmpty && properties.isEmpty && !listed then plainOptions

/-- The order in which the rows are kept. -/
def orderBy (g : Grammar) : Read Unit := do
  if ← keywords ["ORDER", "BY"] then
    if ← isSymbol "(" then ignore (inParens (commaSeparated0 g.anyExpr ")"))
    else ignore g.anyExpr

/-- What happens to the rows at the end of a transaction. -/
def onCommit : Read Unit := do
  if ← keywords ["ON", "COMMIT"] then
    unless ← anyOf [["DELETE", "ROWS"], ["PRESERVE", "ROWS"], ["DROP"]] do
      let found := ((← peek 0).map Token.text).getD "EOF"
      throw (.message ("Expecting DELETE ROWS, PRESERVE ROWS or DROP" ++ found) none)

/-- How the rows of a table are spread over buckets. -/
def buckets (g : Grammar) : Read Unit := do
  if ← only (← allows Rules.buckets) (keywords ["CLUSTERED", "BY"]) then
    ignore (columnNames false false)
    if ← keywords ["SORTED", "BY"] then ignore (inParens (CallReader.orderItems g))
    expectKeyword "INTO"
    ignore numberValue
    expectKeyword "BUCKETS"

/-- The columns that a table is divided by. -/
def partitioned (g : Grammar) : Read Unit := do
  if ← keywords ["PARTITIONED", "BY"] then ignore (inParens (commaSeparated g.column))

/-- Everything that may follow the columns. -/
def tail (g : Grammar) : Read Unit := do
  let rules ← rules
  ignore (keywords ["WITHOUT", "ROWID"])
  partitioned g
  buckets g
  storage g
  configuration g
  if ← only rules.derivedColumns (keywords ["PRIMARY", "KEY"]) then ignore g.anyExpr
  orderBy g
  onCommit
  ignore (keyword "STRICT")
  if ← keyword "AS" then ignore g.query
  else if rules.createSelect && (← isKeyword "SELECT") then ignore g.query

/-- `CREATE TABLE`, read behind these words. -/
def createTable (g : Grammar) : Read CreateTable := do
  ignore (keywords ["IF", "NOT", "EXISTS"])
  let name ← objectName
  if ← keywords ["ON", "CLUSTER"] then
    ignore identifier
  if (← oneOf ["LIKE", "ILIKE"]).isSome then
    ignore objectName
  if ← keyword "CLONE" then ignore (orNothing objectName)
  let e ← elements g
  tail g
  return { name, columns := e.columns.reverse, constraints := e.constraints.reverse }

/-- `CREATE EXTERNAL TABLE`, read behind `EXTERNAL`. -/
def createExternal (g : Grammar) : Read CreateTable := do
  expectKeyword "TABLE"
  ignore (keywords ["IF", "NOT", "EXISTS"])
  let name ← objectName
  let e ← elements g
  partitioned g
  storage g
  if (← PropertyReader.properties g ["TBLPROPERTIES"]).isEmpty then
    ignore (PropertyReader.properties g ["OPTIONS"])
  return { name, columns := e.columns.reverse, constraints := e.constraints.reverse }

end TableFeed.Sql.TableReader
