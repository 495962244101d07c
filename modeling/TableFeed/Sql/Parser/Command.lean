import TableFeed.Sql.Parser.Alter
import TableFeed.Sql.Parser.Copy
import TableFeed.Sql.Parser.Grant
import TableFeed.Sql.Parser.Setting
import TableFeed.Sql.Parser.Show

/-!
# Commands

The statements that neither ask for rows nor change them. Only their first keyword counts for
the rest of the program, so each is read behind it and for its form alone; `commands` lists
them, and the first rule whose keyword comes next is taken.
-/

namespace TableFeed.Sql.CommandReader

open Read

/-- Takes a name. -/
def named : Read Unit := ignore identifier

/-- Takes a dotted name. -/
def object : Read Unit := ignore objectName

/-- A condition under which the object need not be there. -/
def ifExists : Read Unit := ignore (keywords ["IF", "EXISTS"])

/-! ### Variables -/

/-- `RESET` -/
def reset : Read Unit := do
  unless ← keyword "ALL" do object

/-- The value of a `PRAGMA`. -/
def pragmaValue : Read Unit := do
  let here ← rest
  match ← value with
  | .number _ _ | .placeholder _ | .quoted .single _ | .quoted .double _ => return
  | _ => expectedAt "number or string or ? placeholder" here

/-- `PRAGMA` -/
def pragma : Read Unit := do
  object
  if ← isSymbol "(" then inParens pragmaValue
  else if ← symbol "=" then pragmaValue

/-- A variable with its type and its value. -/
def variableForm (g : Grammar) : Read Unit := do
  let name ← identifier
  if !name.text.startsWith "@" && !(← isKeyword "CURSOR") then
    throw (.message "Invalid MsSql variable declaration." none)
  unless ← keyword "CURSOR" do
    ignore (keyword "AS")
    ignore g.fullType
  if ← keyword "FOR" then ignore g.query
  else if ← symbol "=" then ignore g.anyExpr

/-- A cursor, behind `DECLARE`. -/
def cursor (g : Grammar) : Read Unit := do
  named
  ignore (keyword "BINARY")
  ignore (oneOf ["INSENSITIVE", "ASENSITIVE"])
  ignore (anyOf [["SCROLL"], ["NO", "SCROLL"]])
  expectKeyword "CURSOR"
  if (← oneOf ["WITH", "WITHOUT"]).isSome then expectKeyword "HOLD"
  expectKeyword "FOR"
  ignore g.query

/-- `DECLARE` -/
def declare (g : Grammar) : Read Unit := do
  if ← allows Rules.declaredVariables then ignore (commaSeparated (variableForm g)) else cursor g

/-! ### Descriptions -/

/-- An option of `EXPLAIN`, with its value if it has one. -/
def explainOption (g : Grammar) : Read Unit := do
  named
  unless (← isSymbol ",") || (← isSymbol ")") do ignore g.anyExpr

/-- How a plan is shown, behind `FORMAT`. -/
def planFormat : Read Unit := do
  ignore (symbol "=")
  if (← oneOf ["TEXT", "GRAPHVIZ", "JSON"]).isNone then refuse "fileformat"

/-- A statement whose plan is asked for, or the name of a table. -/
def described (g : Grammar) : Read Unit := do
  match ← attempt g.statement with
  | some (.other k) =>
    if ["EXPLAIN", "DESCRIBE", "DESC"].contains k then
      throw (.message "Explain must be root of the plan" none)
  | some _ => return
  | none =>
    ignore (oneOf ["EXTENDED", "FORMATTED"])
    if ← allows Rules.describesTables then ignore (keyword "TABLE")
    object

/-- `DESCRIBE` and `DESC` -/
def describe (g : Grammar) : Read Unit := do
  unless ← anyOf [["QUERY", "PLAN"], ["ESTIMATE"]] do
    ignore (keyword "ANALYZE")
    ignore (keyword "VERBOSE")
    if ← keyword "FORMAT" then planFormat
  described g

/-- `EXPLAIN` -/
def explain (g : Grammar) : Read Unit := do
  if ← both (allows Rules.explainOptions) (isSymbol "(") then
    ignore (inParens (commaSeparated (explainOption g)))
    described g
  else describe g

/-! ### The state of tables -/

/-- An option of `ANALYZE`. -/
def analyzeOption (g : Grammar) : Read (Option Unit) :=
  choose [(["PARTITION"], true, ignore (inParens g.exprs)), (["NOSCAN"], true, pure ()),
    (["FOR"], true, do expectKeyword "COLUMNS"; ignore (attempt (commaSeparated identifier))),
    (["CACHE"], true, expectKeyword "METADATA"), (["COMPUTE"], true, expectKeyword "STATISTICS")]

/-- `ANALYZE` -/
def analyze (g : Grammar) : Read Unit := do
  ignore (keyword "TABLE")
  object
  ignore (many (analyzeOption g))

/-- `VACUUM` -/
def vacuum : Read Unit := do
  ignore (keyword "FULL")
  ignore (keywords ["SORT", "ONLY"])
  ignore (keywords ["DELETE", "ONLY"])
  ignore (keyword "REINDEX")
  ignore (keyword "RECLUSTER")
  if (← attempt objectName).isSome then
    if ← keyword "TO" then
      ignore value
      expectKeyword "PERCENT"
    ignore (keyword "BOOST")

/-- What is done with the parts of a table. -/
def partitionAction : Read Unit := do
  ignore (oneOf ["ADD", "DROP", "SYNC"])
  expectKeyword "PARTITIONS"

/-- `MSCK` -/
def repair : Read Unit := do
  ignore (keyword "REPAIR")
  expectKeyword "TABLE"
  object
  ignore (attempt partitionAction)

/-- `OPTIMIZE` -/
def optimize (g : Grammar) : Read Unit := do
  expectKeyword "TABLE"
  object
  if ← keywords ["ON", "CLUSTER"] then named
  if ← keyword "PARTITION" then
    if ← keyword "ID" then named else ignore g.anyExpr
  ignore (keyword "FINAL")
  if ← keyword "DEDUPLICATE" then
    if ← keyword "BY" then ignore g.anyExpr

/-- How a table is locked. -/
def lockKind : Read Unit := do
  if ← keyword "READ" then ignore (keyword "LOCAL")
  else unless ← anyOf [["WRITE"], ["LOW_PRIORITY", "WRITE"]] do
    expected "an lock type in LOCK TABLES"

/-- A table to lock. -/
def lockedTable : Read Unit := do
  named
  ignore (RenameReader.aliasUnless ["READ", "WRITE", "LOW_PRIORITY"])
  lockKind

/-- `LOCK TABLES` -/
def lockTables : Read Unit := ignore (commaSeparated lockedTable)

/-! ### Prepared statements and cursors -/

/-- An expression that may have another name. -/
def renamedExpr (g : Grammar) : Read Unit := do
  ignore g.anyExpr
  ignore RenameReader.explicitAlias

/-- `EXECUTE` -/
def execute (g : Grammar) : Read Unit := do
  object
  if ← isSymbol "(" then ignore (inParens (commaSeparated0 g.anyExpr ")"))
  else unless (← atEnd) || (← isSymbol ";") ||
      ["USING", "OUTPUT", "DEFAULT"].contains (← keywordAt 0) do
    ignore g.exprs
  if ← keyword "INTO" then ignore (commaSeparated identifier)
  if ← keyword "USING" then ignore (commaSeparated (renamedExpr g))
  ignore (keyword "OUTPUT")
  ignore (keyword "DEFAULT")

/-- `PREPARE` -/
def prepare (g : Grammar) : Read Unit := do
  named
  if ← isSymbol "(" then ignore (inParens (commaSeparated g.fullType))
  expectKeyword "AS"
  ignore g.statement

/-- `DEALLOCATE` -/
def deallocate : Read Unit := do
  ignore (keyword "PREPARE")
  named

/-- `FETCH` -/
def fetch : Read Unit := do
  let number : Read Unit := ignore numberValue
  match ← oneOf ["NEXT", "PRIOR", "FIRST", "LAST", "ALL", "ABSOLUTE", "RELATIVE", "FORWARD",
    "BACKWARD"] with
  | some "ABSOLUTE" | some "RELATIVE" | none => number
  | some "FORWARD" | some "BACKWARD" =>
    unless ← keyword "ALL" do number
  | some _ => pure ()
  if (← oneOf ["FROM", "IN"]).isNone then failHere "Expected FROM or IN"
  named
  if ← keyword "INTO" then object

/-- `CLOSE` -/
def close : Read Unit := do
  unless ← keyword "ALL" do named

/-! ### Rows kept at hand -/

/-- The word that a cached table needs. Where the text ends, the message is about the last
token. -/
def tableKeyword (before : List Lexeme) : Read Unit := do
  unless ← keyword "TABLE" do
    if ← atEnd then putBack before
    expected "a \x60TABLE\x60 keyword"

/-- The query that fills a cached table. -/
def cachedQuery (g : Grammar) : Read Unit := do
  match ← peek 0 with
  | some (.word _) =>
    ignore (keyword "AS")
    ignore g.query
  | _ => expected "a QUERY statement"

/-- `CACHE` -/
def cache (g : Grammar) : Read Unit := do
  let before ← rest
  unless ← isKeyword "TABLE" do object
  tableKeyword before
  object
  unless ← atEnd do ignore (PropertyReader.properties g ["OPTIONS"])
  unless ← atEnd do cachedQuery g

/-- `UNCACHE` -/
def uncache : Read Unit := do
  unless ← keyword "TABLE" do expected "a \x60TABLE\x60 keyword"
  ifExists
  object

/-- `LOAD` -/
def load : Read Unit := do
  if ← allows Rules.loadsExtensions then named
  else
    ignore (keyword "DATA")
    expected "\x60DATA\x60 or an extension name after \x60LOAD\x60"

/-- `EXPORT` -/
def exportRows (g : Grammar) : Read Unit := do
  expectKeyword "DATA"
  if ← keywords ["WITH", "CONNECTION"] then object
  expectKeyword "OPTIONS"
  ignore (inParens (commaSeparated (PropertyReader.property g)))
  expectKeyword "AS"
  ignore g.query

/-! ### Objects -/

/-- A new name for a table. -/
def renamedTable : Read Unit := do
  object
  expectKeyword "TO"
  object

/-- `RENAME` -/
def rename : Read Unit := do
  unless ← keyword "TABLE" do expected "KEYWORD \x60TABLE\x60 after RENAME"
  ignore (commaSeparated renamedTable)

/-- The object of a comment. -/
def commented : Read Unit := do
  match ← oneOf ["COLUMN", "DATABASE", "DOMAIN", "EXTENSION", "FUNCTION", "INDEX", "MATERIALIZED",
    "PROCEDURE", "ROLE", "SCHEMA", "SEQUENCE", "TABLE", "TYPE", "USER", "VIEW"] with
  | none => refuse "comment object_type"
  | some "MATERIALIZED" =>
    expectKeyword "VIEW"
    object
  | some _ => object

/-- `COMMENT` -/
def comment : Read Unit := do
  ifExists
  expectKeyword "ON"
  commented
  expectKeyword "IS"
  unless ← keyword "NULL" do ignore literalString

/-- `DISCARD` -/
def discard : Read Unit := do
  if (← oneOf ["ALL", "PLANS", "SEQUENCES", "TEMP", "TEMPORARY"]).isNone then
    expected "ALL, PLANS, SEQUENCES, TEMP or TEMPORARY after DISCARD"

/-- `ATTACH` -/
def attach (g : Grammar) : Read Unit := do
  ignore (keyword "DATABASE")
  ignore g.anyExpr
  expectKeyword "AS"
  named

/-- `DETACH` -/
def detach : Read Unit := do
  ignore (keyword "DATABASE")
  ifExists
  named

/-! ### Messages and calls -/

/-- `CALL` -/
def invoke (g : Grammar) : Read Unit := do
  let name ← objectName
  if ← isSymbol "(" then
    ignore (CallReader.call g (FormReader.interval g) name)

/-- `ASSERT` -/
def assert (g : Grammar) : Read Unit := do
  ignore g.anyExpr
  if ← keyword "AS" then ignore g.anyExpr

/-- `RAISE` -/
def raise (g : Grammar) : Read Unit := do
  if ← keywords ["USING", "MESSAGE"] then
    expectSymbol "="
    ignore g.anyExpr
  else ignore (attempt g.anyExpr)

/-- `RAISERROR`, and how it is shown up to its first blank. -/
def raiseError (g : Grammar) : Read String := do
  let message ← inParens do
    let message ← g.anyExpr
    expectSymbol ","
    ignore g.anyExpr
    expectSymbol ","
    ignore g.exprs
    return message
  if ← keyword "WITH" then ignore (commaSeparated (expectOneOf ["LOG", "NOWAIT", "SETERROR"]))
  return Text.firstWord ("RAISERROR(" ++ message.render ++ ",")

/-- `NOTIFY` -/
def notify : Read Unit := do
  named
  if ← symbol "," then ignore literalString

/-- `UNLISTEN` -/
def unlisten : Read Unit := do
  unless ← symbol "*" do
    if (← identifier?).isNone then expected "wildcard or identifier"

/-- `KILL` -/
def kill : Read Unit := do
  let kind ← oneOf ["CONNECTION", "QUERY", "MUTATION"]
  ignore unsigned
  if kind == some "MUTATION" && !(← allows Rules.optimizes) then
    expected "Unsupported type for KILL, allowed: CONNECTION | QUERY"

/-! ### `FLUSH` -/

/-- A part of a list of tables to flush, behind its first token `t`, which `here` begins with.
Keywords that say nothing are passed over. -/
def flushPart (here : List Lexeme) (t : Option Token) : Read (Option Unit) := do
  match t with
  | some (.word w) =>
    if w.keyword == "WITH" then ignore (keywords ["READ", "LOCK"])
    else if w.keyword == "FOR" then ignore (keyword "EXPORT")
    else unless Keyword.isReserved w do
      goTo here
      ignore (commaSeparated objectName)
    return some ()
  | _ => return none

/-- The tables to flush. The first token that is no word ends them and is taken. -/
def flushTables : Read Unit := do
  ignore (many do
    let here ← rest
    flushPart here (← next))

/-- `FLUSH` -/
def flush : Read Unit := do
  unless ← allows Rules.flushes do failHere "Unsupported statement FLUSH"
  ignore (oneOf ["NO_WRITE_TO_BINLOG", "LOCAL"])
  let kinds := [["BINARY", "LOGS"], ["ENGINE", "LOGS"], ["ERROR", "LOGS"], ["GENERAL", "LOGS"],
    ["HOSTS"], ["PRIVILEGES"], ["OPTIMIZER_COSTS"], ["RELAY", "LOGS"], ["SLOW", "LOGS"],
    ["STATUS"], ["USER_RESOURCES"], ["LOGS"], ["TABLES"]]
  match ← firstOf kinds with
  | none =>
    expected ("BINARY LOGS, ENGINE LOGS, ERROR LOGS, GENERAL LOGS, HOSTS, LOGS, PRIVILEGES, " ++
      "OPTIMIZER_COSTS,RELAY LOGS [FOR CHANNEL channel], SLOW LOGS, STATUS, USER_RESOURCES")
  | some ["RELAY", "LOGS"] =>
    if ← keywords ["FOR", "CHANNEL"] then object
  | some ["TABLES"] => flushTables
  | some _ => return

/-! ### All of them -/

/-- The commands that any dialect has, by their first keywords. -/
def common (g : Grammar) : List (String × Read Unit) :=
  [("KILL", kill), ("FLUSH", flush), ("DESC", describe g), ("DESCRIBE", describe g),
    ("EXPLAIN", explain g), ("ANALYZE", analyze g), ("RAISE", raise g), ("ATTACH", attach g),
    ("MSCK", repair), ("CACHE", cache g), ("UNCACHE", uncache), ("DISCARD", discard),
    ("DECLARE", declare g), ("FETCH", fetch), ("ALTER", AlterReader.alter g), ("CALL", invoke g),
    ("COPY", CopyReader.copy g), ("OPEN", named), ("CLOSE", close),
    ("SET", SettingReader.setting g), ("SHOW", ShowReader.showing g), ("USE", object),
    ("GRANT", GrantReader.grant g), ("DENY", GrantReader.deny g),
    ("REVOKE", GrantReader.revoke g), ("START", TransactionReader.start),
    ("BEGIN", TransactionReader.begin), ("END", TransactionReader.finish), ("SAVEPOINT", named),
    ("RELEASE", TransactionReader.release), ("COMMIT", TransactionReader.chain),
    ("ROLLBACK", TransactionReader.rollback), ("ASSERT", assert g), ("DEALLOCATE", deallocate),
    ("EXECUTE", execute g), ("EXEC", execute g), ("PREPARE", prepare g), ("PRAGMA", pragma),
    ("RENAME", rename), ("LOAD", load), ("PRINT", ignore g.anyExpr),
    ("RETURN", ignore (attempt g.anyExpr)), ("EXPORT", exportRows g), ("VACUUM", vacuum),
    ("RESET", reset)]

/-- The commands that only some dialects have. -/
def particular (g : Grammar) (rules : Rules) : List (String × Bool × Read Unit) :=
  [("DETACH", rules.detaches, detach), ("LISTEN", rules.notifications, named),
    ("UNLISTEN", rules.notifications, unlisten), ("NOTIFY", rules.notifications, notify),
    ("INSTALL", rules.installs, named), ("OPTIMIZE", rules.optimizes, optimize g),
    ("COMMENT", rules.commentsOn, comment)]

/-- The commands of a dialect. -/
def commands (g : Grammar) (rules : Rules) : List (String × Read Unit) :=
  common g ++ (particular g rules).filterMap fun (word, allowed, p) =>
    if allowed then some (word, p) else none

end TableFeed.Sql.CommandReader
