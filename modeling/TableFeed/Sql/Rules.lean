import TableFeed.Sql.Dialect
import TableFeed.Text.Letters

/-!
# What a dialect decides

The lexer and the parser are written once. Wherever the dialects differ they ask a record of
decisions, one field for each question. The plain record answers no to everything; each
dialect says what it adds.

`Rules.clickHouse` belongs to no dialect that a user may choose; its target forms of `INSERT`
are known to no other one.
-/

namespace TableFeed.Sql

open TableFeed

/-- The decisions of a dialect. -/
structure Rules where
  /-- A character that may begin a name. -/
  beginsName : Char → Bool
  /-- A character that may stand in a name after the first one. -/
  inName : Char → Bool
  /-- The marks that open a quoted name. -/
  nameQuotes : List Char := ['"', Char.ofNat 96]
  /-- `b'01'` is a literal. -/
  bitStrings : Bool := false
  /-- `r'text'` is a literal. -/
  rawStrings : Bool := false
  /-- `e'text'` is a literal. -/
  escapeStrings : Bool := false
  /-- `u&'text'` is a literal. -/
  unicodeStrings : Bool := false
  /-- A backslash escapes the next character of a literal. -/
  backslashEscapes : Bool := false
  /-- The escapes of `%` and `_` are kept as written. -/
  keepsWildcardEscapes : Bool := false
  /-- Literals that follow one another are one literal. -/
  joinsStrings : Bool := false
  /-- `1_000` is a number. -/
  numberUnderscores : Bool := false
  /-- A name may begin with digits. -/
  digitNames : Bool := false
  /-- `--` begins a comment only before a blank. -/
  spacedComments : Bool := false
  /-- `#` begins a comment. -/
  hashComments : Bool := false
  /-- A carriage return ends a line comment. -/
  returnEndsComment : Bool := false
  /-- Block comments nest. -/
  nestedComments : Bool := true
  /-- What a block comment with an exclamation mark holds is read. -/
  commentHints : Bool := false
  /-- `//` divides. -/
  intDivision : Bool := false
  /-- `|>` leads from a query to a step behind it. -/
  pipeOperators : Bool := false
  /-- Runs of operator characters are operators, among them the geometric ones. -/
  customOperators : Bool := false
  /-- `$` may stand in the name of a placeholder. -/
  dollarPlaceholders : Bool := false
  /-- `TRUE` and `FALSE` are values. -/
  booleanLiterals : Bool := true
  /-- A dotted name may leave out its second part. -/
  emptyNameParts : Bool := false
  /-- A whole number type may be followed by `SIGNED`. -/
  signedSuffix : Bool := false
  /-- An interval type may have fields and a precision. -/
  intervalOptions : Bool := false
  /-- `INT[]` is a type. -/
  arrayBrackets : Bool := false
  /-- `STRUCT<a INT>` and `UNION(a INT)` are types. -/
  structTypes : Bool := false
  /-- `Nullable(INT)`, `Map(TEXT, INT)` and their like are types. -/
  nestedTypes : Bool := false
  /-- `TSVECTOR` and `TSQUERY` are types. -/
  textSearch : Bool := false
  /-- `NOTNULL` is an operator. -/
  notNullOperator : Bool := false
  /-- `&&` is an operator. -/
  overlaps : Bool := false
  /-- `^@` is an operator. -/
  startsWith : Bool := false
  /-- `<<` and `>>` are operators. -/
  bitShifts : Bool := false
  /-- `WITH FILL`, `SETTINGS` and `LIMIT … BY` exist. -/
  settings : Bool := false
  /-- The name of an argument may be any expression. -/
  namedByExpr : Bool := false
  /-- `f(a => 1)` names an argument. -/
  namedWithArrow : Bool := true
  /-- `f(a = 1)` names an argument. -/
  namedWithEquals : Bool := false
  /-- `f(a := 1)` names an argument. -/
  namedWithAssignment : Bool := false
  /-- `f(a : 1)` names an argument. -/
  namedWithColon : Bool := false
  /-- `* EXCLUDE (a)` is allowed. -/
  wildcardExclude : Bool := false
  /-- `f(a IGNORE NULLS)` is allowed. -/
  nullTreatmentArgument : Bool := false
  /-- `f(a HAVING MAX b)` is allowed. -/
  havingArgument : Bool := false
  /-- `f(a SEPARATOR ', ')` is allowed. -/
  separatorArgument : Bool := false
  /-- Aggregates may have a condition. -/
  filter : Bool := false
  /-- `f(1)(a)` is a call with parameters. -/
  callParameters : Bool := false
  /-- An interval must name its unit, and its amount may be any expression. -/
  intervalUnit : Bool := false
  /-- Any name may name a field of a point in time. -/
  anyDateField : Bool := false
  /-- A text may name a field of a point in time. -/
  quotedDateField : Bool := false
  /-- `WEEK(MONDAY)` is a field of a point in time. -/
  weekDays : Bool := false
  /-- `EXTRACT(YEAR, a)` is allowed. -/
  extractComma : Bool := false
  /-- `CONVERT` names the type before the value. -/
  convertTypeFirst : Bool := false
  /-- `TRY_CONVERT` exists. -/
  tryConvert : Bool := false
  /-- `TRIM(a, b)` is allowed. -/
  trimCharacters : Bool := false
  /-- `MATCH (a) AGAINST ('b')` is allowed. -/
  matchAgainst : Bool := false
  /-- Keys and values in braces are a value. -/
  dictionaries : Bool := false
  /-- `MAP` before keys and values in braces is allowed. -/
  mapLiterals : Bool := false
  /-- `x -> x + 1` is a function. -/
  lambdas : Bool := false
  /-- `USER` and its like are functions without parentheses. -/
  sessionFunctions : Bool := false
  /-- `a.*` is an expression anywhere. -/
  wildcardExpression : Bool := false
  /-- `a IN ()` is allowed. -/
  emptyInList : Bool := false
  /-- `DIV` is an operator. -/
  divOperator : Bool := false
  /-- `OPERATOR(s.+)` is an operator. -/
  operatorKeyword : Bool := false
  /-- `MATCH` and `REGEXP` are operators. -/
  matchOperators : Bool := false
  /-- A table may be followed by hints which indexes to use. -/
  tableHints : Bool := false
  /-- `t PARTITION (p)` is a part of a table. -/
  partitionSelection : Bool := false
  /-- A table may be read as of an earlier time. -/
  timeTravel : Bool := false
  /-- A sample of a table is taken before it is renamed. -/
  sampleBeforeAlias : Bool := false
  /-- A cross join may have a condition. -/
  crossJoinCondition : Bool := false
  /-- A single table may stand in parentheses. -/
  parenthesizedTables : Bool := false
  /-- `VALUES (1)` may stand in the place of a table. -/
  valuesTables : Bool := false
  /-- `UNNEST` makes a table of an array. -/
  unnest : Bool := false
  /-- `MATCH_RECOGNIZE` looks for patterns in the rows of a table. -/
  rowPatterns : Bool := false
  /-- `* ILIKE 'a'` is allowed. -/
  wildcardIlike : Bool := false
  /-- `* EXCEPT (a)` is allowed. -/
  wildcardExcept : Bool := false
  /-- `* REPLACE (a AS b)` is allowed. -/
  wildcardReplace : Bool := false
  /-- `* RENAME (a AS b)` is allowed. -/
  wildcardRename : Bool := false
  /-- `SELECT a = 1` gives a column a name. -/
  equalsAlias : Bool := false
  /-- `SELECT f(a).*` is allowed. -/
  expressionStar : Bool := false
  /-- A comma may stand behind the last selected column. -/
  trailingCommas : Bool := false
  /-- Rows may be grouped by sets of columns. -/
  groupingSets : Bool := false
  /-- `GROUP BY a WITH ROLLUP` is allowed. -/
  groupModifiers : Bool := false
  /-- A window may be given another name. -/
  windowReferences : Bool := false
  /-- `CONNECT BY` exists. -/
  connectBy : Bool := false
  /-- `SELECT FROM t` is allowed. -/
  emptySelection : Bool := false
  /-- `PREWHERE` exists. -/
  prewhere : Bool := false
  /-- `FROM t SELECT a` is allowed. -/
  fromFirst : Bool := false
  /-- Lists of columns and rows may be empty. -/
  emptyLists : Bool := false
  /-- A named query may say whether it is kept. -/
  materializedTables : Bool := false
  /-- `LIMIT 1, 2` is allowed. -/
  limitComma : Bool := false
  /-- `ORDER BY ALL` is allowed. -/
  orderByAll : Bool := false
  /-- A query may say in which format it gives its result. -/
  resultFormats : Bool := false
  /-- `INDEX`, `KEY`, `FULLTEXT` and `SPATIAL` begin constraints. -/
  indexConstraints : Bool := false
  /-- `AUTO_INCREMENT`, `ON UPDATE` and `SRID` are options of a column. -/
  autoIncrement : Bool := false
  /-- `AUTOINCREMENT` is an option of a column. -/
  autoincrement : Bool := false
  /-- `ASC` and `DESC` are options of a column. -/
  orderedColumns : Bool := false
  /-- `AS (a + 1)` is an option of a column. -/
  computedColumns : Bool := false
  /-- A generated column must be stored. -/
  storesGenerated : Bool := false
  /-- `IDENTITY` is an option of a column. -/
  identityColumns : Bool := false
  /-- `ON CONFLICT` is an option of a column. -/
  conflictColumns : Bool := false
  /-- `MATERIALIZED`, `ALIAS` and `EPHEMERAL` are options of a column, and a table has a key and
  an order of its own. -/
  derivedColumns : Bool := false
  /-- A column may have no type. -/
  untypedColumns : Bool := false
  /-- `OPTIONS (a = 1)` is an option of columns and tables. -/
  optionLists : Bool := false
  /-- A table may be kept as a heap. -/
  storageOptions : Bool := false
  /-- The rows of a table may be spread over buckets. -/
  buckets : Bool := false
  /-- A table may be divided by an expression. -/
  partitionBy : Bool := false
  /-- `CREATE TABLE t SELECT 1` is allowed. -/
  createSelect : Bool := false
  /-- An index may have properties. -/
  indexProperties : Bool := false
  /-- A column of a view has a type. -/
  typedViewColumns : Bool := false
  /-- A view may have a comment, and may be kept free from changes of what it shows. -/
  viewNotes : Bool := false
  /-- `INSERT INTO FUNCTION f(a)` is allowed. -/
  functionTargets : Bool := false
  /-- `INSERT INTO t FORMAT CSV` is allowed. -/
  insertFormat : Bool := false
  /-- `INSERT INTO t SET a = 1` is allowed. -/
  insertSet : Bool := false
  /-- An `INSERT` may have a priority and ignore failures. -/
  insertPriority : Bool := false
  /-- The table of an `INSERT` may be renamed. -/
  targetAlias : Bool := false
  /-- The inserted row may be given a name. -/
  rowAliases : Bool := false
  /-- A `MERGE` may insert a row as it is. -/
  mergeRows : Bool := false
  /-- `DELETE t` is allowed. -/
  deleteWithoutFrom : Bool := false
  /-- `TRUNCATE` may say what happens to sequences and to tables that refer to the table. -/
  truncateOptions : Bool := false
  /-- `DROP TEMPORARY TABLE` is allowed. -/
  dropTemporary : Bool := false
  /-- A column that is added or changed may be given a place among the others. -/
  columnPositions : Bool := false
  /-- A column may be added on the condition that it is not there. -/
  conditionalColumns : Bool := false
  /-- A change of a column's type may say how its values are converted. -/
  columnConversions : Bool := false
  /-- Constraints may be renamed. -/
  renamesConstraints : Bool := false
  /-- Tables have owners. -/
  owners : Bool := false
  /-- Tables are kept in parts, and have projections. -/
  tableParts : Bool := false
  /-- Options say what a role may do. -/
  roleOptions : Bool := false
  /-- Roles have members and owners. -/
  roleMembers : Bool := false
  /-- The name of a user may be followed by a host. -/
  userHosts : Bool := false
  /-- `PUBLIC` is the name of a role. -/
  publicRole : Bool := false
  /-- Functions have clauses in any order, the body among them. -/
  functionClauses : Bool := false
  /-- The body of a function is a block or what it returns. -/
  functionBlocks : Bool := false
  /-- Triggers exist. -/
  triggers : Bool := true
  /-- The table of a trigger comes before its events. -/
  tableTriggers : Bool := false
  /-- Macros exist. -/
  macros : Bool := false
  /-- `EXPLAIN (ANALYZE)` is allowed. -/
  explainOptions : Bool := false
  /-- `DESCRIBE TABLE t` is allowed. -/
  describesTables : Bool := false
  /-- `FLUSH` exists. -/
  flushes : Bool := false
  /-- `LISTEN`, `UNLISTEN` and `NOTIFY` exist. -/
  notifications : Bool := false
  /-- `DETACH` exists. -/
  detaches : Bool := false
  /-- `INSTALL` exists. -/
  installs : Bool := false
  /-- `LOAD` loads an extension. -/
  loadsExtensions : Bool := false
  /-- `OPTIMIZE` exists. -/
  optimizes : Bool := false
  /-- `COMMENT ON` exists. -/
  commentsOn : Bool := false
  /-- `LOCK TABLES` and `UNLOCK TABLES` exist. -/
  locksTables : Bool := false
  /-- `REPLACE` inserts rows. -/
  replacesRows : Bool := false
  /-- `REPLACE` is short for an `INSERT` that replaces rows. -/
  replaceClause : Bool := false
  /-- `IF` has no `THEN`, and its parts are statements or blocks. -/
  blockIf : Bool := false
  /-- `BEGIN` may say how locks are taken. -/
  transactionModifiers : Bool := false
  /-- `END` may close a part of a block. -/
  endModifiers : Bool := false
  /-- `SET` may leave out the sign before the value. -/
  setWithoutSign : Bool := false
  /-- `SET NAMES` exists. -/
  setNames : Bool := false
  /-- `SET` may give values to several variables. -/
  listedSettings : Bool := false
  /-- `SET (a, b) = (1, 2)` is allowed. -/
  parenthesizedVariables : Bool := false
  /-- `DECLARE` declares variables. -/
  declaredVariables : Bool := false
  /-- The element type of an array stands in parentheses. -/
  wrappedTypes : Bool := false

/-- Letters, digits and the signs that the liberal dialects allow in names. -/
def liberalName (c : Char) : Bool :=
  Text.isAlphabetic c || c.isDigit || c == '@' || c == '$' || c == '#' || c == '_'

/-- The letters and signs that may begin a name in the liberal dialects. -/
def liberalStart (c : Char) : Bool :=
  Text.isAlphabetic c || c == '_' || c == '#' || c == '@'

namespace Rules

/-- The dialect that takes what most others take. -/
def generic : Rules where
  beginsName := liberalStart
  inName := liberalName
  bitStrings := true
  rawStrings := true
  escapeStrings := true
  unicodeStrings := true
  intDivision := true
  pipeOperators := true
  signedSuffix := true
  intervalOptions := true
  arrayBrackets := true
  structTypes := true
  nestedTypes := true
  textSearch := true
  overlaps := true
  startsWith := true
  bitShifts := true
  settings := true
  namedWithAssignment := true
  wildcardExclude := true
  nullTreatmentArgument := true
  havingArgument := true
  separatorArgument := true
  filter := true
  callParameters := true
  anyDateField := true
  quotedDateField := true
  weekDays := true
  extractComma := true
  tryConvert := true
  trimCharacters := true
  matchAgainst := true
  dictionaries := true
  mapLiterals := true
  sessionFunctions := true
  operatorKeyword := true
  partitionSelection := true
  parenthesizedTables := true
  valuesTables := true
  unnest := true
  rowPatterns := true
  wildcardIlike := true
  wildcardExcept := true
  wildcardReplace := true
  wildcardRename := true
  trailingCommas := true
  groupingSets := true
  groupModifiers := true
  windowReferences := true
  connectBy := true
  emptySelection := true
  prewhere := true
  fromFirst := true
  limitComma := true
  resultFormats := true
  indexConstraints := true
  autoIncrement := true
  autoincrement := true
  orderedColumns := true
  computedColumns := true
  identityColumns := true
  conflictColumns := true
  derivedColumns := true
  optionLists := true
  storageOptions := true
  buckets := true
  partitionBy := true
  createSelect := true
  indexProperties := true
  viewNotes := true
  insertPriority := true
  rowAliases := true
  mergeRows := true
  deleteWithoutFrom := true
  truncateOptions := true
  dropTemporary := true
  columnPositions := true
  conditionalColumns := true
  owners := true
  tableParts := true
  userHosts := true
  functionClauses := true
  macros := true
  explainOptions := true
  flushes := true
  detaches := true
  installs := true
  loadsExtensions := true
  optimizes := true
  commentsOn := true
  replacesRows := true
  transactionModifiers := true
  setNames := true
  listedSettings := true
  parenthesizedVariables := true

def mysql : Rules where
  beginsName c := Text.isAlphabetic c || c == '_' || c == '$' || c == '@' || !Text.isAscii c
  inName c := Text.isAlphabetic c || c == '_' || c == '$' || c == '@' || !Text.isAscii c || c.isDigit
  nameQuotes := [Char.ofNat 96]
  bitStrings := true
  backslashEscapes := true
  keepsWildcardEscapes := true
  joinsStrings := true
  digitNames := true
  spacedComments := true
  hashComments := true
  nestedComments := false
  commentHints := true
  signedSuffix := true
  separatorArgument := true
  intervalUnit := true
  matchAgainst := true
  divOperator := true
  tableHints := true
  partitionSelection := true
  crossJoinCondition := true
  groupModifiers := true
  emptyLists := true
  limitComma := true
  indexConstraints := true
  autoIncrement := true
  computedColumns := true
  createSelect := true
  insertSet := true
  insertPriority := true
  rowAliases := true
  dropTemporary := true
  columnPositions := true
  userHosts := true
  flushes := true
  locksTables := true
  replacesRows := true
  setNames := true
  listedSettings := true

def postgres : Rules where
  beginsName c := Text.isAlphabetic c || c == '_' || !Text.isAscii c
  inName c := Text.isAlphabetic c || c.isDigit || c == '$' || c == '_' || !Text.isAscii c
  nameQuotes := ['"']
  bitStrings := true
  escapeStrings := true
  unicodeStrings := true
  numberUnderscores := true
  returnEndsComment := true
  customOperators := true
  intervalOptions := true
  arrayBrackets := true
  textSearch := true
  notNullOperator := true
  overlaps := true
  startsWith := true
  bitShifts := true
  namedByExpr := true
  namedWithAssignment := true
  namedWithColon := true
  filter := true
  anyDateField := true
  quotedDateField := true
  sessionFunctions := true
  wildcardExpression := true
  operatorKeyword := true
  unnest := true
  expressionStar := true
  groupingSets := true
  emptySelection := true
  materializedTables := true
  storesGenerated := true
  partitionBy := true
  indexProperties := true
  targetAlias := true
  truncateOptions := true
  conditionalColumns := true
  columnConversions := true
  renamesConstraints := true
  owners := true
  roleOptions := true
  functionClauses := true
  explainOptions := true
  notifications := true
  loadsExtensions := true
  commentsOn := true
  setNames := true

def sqlite : Rules where
  beginsName c := c.isAlpha || c == '_' || (0x7F ≤ c.toNat && c.toNat ≤ 0xFFFF)
  inName c := c.isAlpha || c == '_' || (0x7F ≤ c.toNat && c.toNat ≤ 0xFFFF) || c.isDigit
  nameQuotes := [Char.ofNat 96, '"', '[']
  nestedComments := false
  dollarPlaceholders := true
  notNullOperator := true
  filter := true
  emptyInList := true
  matchOperators := true
  limitComma := true
  autoincrement := true
  orderedColumns := true
  computedColumns := true
  conflictColumns := true
  untypedColumns := true
  loadsExtensions := true
  replaceClause := true
  transactionModifiers := true

def mssql : Rules where
  beginsName := liberalStart
  inName := liberalName
  nameQuotes := ['"', '[']
  booleanLiterals := false
  emptyNameParts := true
  namedByExpr := true
  namedWithArrow := false
  namedWithColon := true
  convertTypeFirst := true
  tryConvert := true
  timeTravel := true
  equalsAlias := true
  connectBy := true
  identityColumns := true
  storageOptions := true
  roleMembers := true
  publicRole := true
  functionBlocks := true
  tableTriggers := true
  blockIf := true
  transactionModifiers := true
  endModifiers := true
  setWithoutSign := true
  declaredVariables := true

def ansi : Rules where
  beginsName c := c.isAlpha
  inName c := c.isAlpha || c.isDigit || c == '_'
  intervalUnit := true
  triggers := false

def clickHouse : Rules where
  beginsName c := c.isAlpha || c == '_'
  inName c := c.isAlpha || c == '_' || c.isDigit
  backslashEscapes := true
  numberUnderscores := true
  nestedTypes := true
  settings := true
  callParameters := true
  intervalUnit := true
  dictionaries := true
  lambdas := true
  wildcardExcept := true
  wildcardReplace := true
  groupingSets := true
  groupModifiers := true
  prewhere := true
  fromFirst := true
  limitComma := true
  orderByAll := true
  resultFormats := true
  derivedColumns := true
  createSelect := true
  functionTargets := true
  insertFormat := true
  typedViewColumns := true
  tableParts := true
  triggers := false
  describesTables := true
  optimizes := true
  wrappedTypes := true
end Rules

/-- The decisions of a dialect that a user may choose. -/
def Dialect.rules : Dialect → Rules
  | generic => .generic
  | mysql => .mysql
  | postgres => .postgres
  | sqlite => .sqlite
  | mssql => .mssql
  | ansi => .ansi

end TableFeed.Sql
