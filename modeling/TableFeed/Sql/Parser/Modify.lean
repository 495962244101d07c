import TableFeed.Sql.Parser.Table

/-!
# Statements that change rows

`INSERT` is read in full, because a model is built from it. It, `UPDATE`, `DELETE` and `MERGE`
may stand in the place of a query too, so each is kept as a phrase; a walk comes to the parts of
each in an order of its own. All are read behind their first keyword.
-/

namespace TableFeed.Sql.ModifyReader

open Read FromReader QueryReader

/-! ### Common parts -/

/-- What to do with a row that breaks a constraint. A lone `REPLACE` is short for
`OR REPLACE`. -/
def conflict : Read String := do
  match ← firstOf
    [["OR", "REPLACE"], ["OR", "ROLLBACK"], ["OR", "ABORT"], ["OR", "FAIL"], ["OR", "IGNORE"],
      ["REPLACE"]] with
  | some ["REPLACE"] => return " OR REPLACE"
  | some ks => return " " ++ " ".intercalate ks
  | none => return ""

/-- Takes a keyword and gives it behind a blank, if it comes next. -/
def marked (key : String) : Read String := do
  return if ← keyword key then " " ++ key else ""

/-- Columns that are given values. -/
def assignments (g : Grammar) : Read Phrase := do
  return .commas (← commaSeparated (assignment g))

/-- The columns that a statement gives back. -/
def returning (g : Grammar) : Read Phrase := do
  if ← keyword "RETURNING" then return .text " RETURNING " ++ .commas (← commaSeparated (item g))
  return .empty

/-- The condition of a statement. -/
def condition (g : Grammar) : Read Phrase := exprClause g "WHERE"

/-- A part of a table that rows are inserted into. -/
def partition (g : Grammar) : Read Phrase := do
  if ← keyword "PARTITION" then
    return .text "PARTITION " ++ .inParens (.list (← inParens g.exprs)) ++ .text " "
  return .empty

/-! ### `INSERT` -/

/-- A function call in the place of a table. -/
def functionTarget (g : Grammar) : Read (InsertTarget × Phrase) := do
  let name ← objectName
  let e ← CallReader.call g (FormReader.interval g) name
  let text := "FUNCTION " ++ e.render
  match e with
  | .form (.call name) layout parts =>
    return (.other text, .text ("FUNCTION " ++ renderName name) ++ { layout, parts })
  | _ => return (.other text, .text text)

/-- What rows are inserted into. -/
def target (g : Grammar) : Read (InsertTarget × Phrase) := do
  if ← only (← allows Rules.functionTargets) (keyword "FUNCTION") then functionTarget g
  else
    let name ← objectName
    return (.table name, .text (renderName name))

/-- The row that a conflict is about. -/
def conflictTarget : Read String := do
  if ← keywords ["ON", "CONSTRAINT"] then return " ON CONSTRAINT " ++ renderName (← objectName)
  if ← isSymbol "(" then return "(" ++ PropertyReader.showNames (← columnNames false false) ++ ")"
  return ""

/-- What to do with a row that is there already. -/
def onConflict (g : Grammar) : Read Phrase := do
  unless ← keyword "ON" do return .empty
  if ← keyword "CONFLICT" then
    let start := " ON CONFLICT" ++ (← conflictTarget) ++ " DO "
    expectKeyword "DO"
    if ← keyword "NOTHING" then return .text (start ++ "NOTHING")
    expectKeywords ["UPDATE", "SET"]
    let given ← assignments g
    return .text (start ++ "UPDATE SET ") ++ given ++ (← condition g)
  expectKeywords ["DUPLICATE", "KEY", "UPDATE"]
  return .text " ON DUPLICATE KEY UPDATE " ++ (← assignments g)

/-- Another name for the inserted row. -/
def rowAlias : Read String := do
  if ← only (← allows Rules.rowAliases) (keyword "AS") then
    let name := " AS " ++ renderName (← objectName)
    let columns ← columnNames true false
    return name ++ if columns.isEmpty then "" else " (" ++ PropertyReader.showNames columns ++ ")"
  return ""

/-- The format of rows that follow the statement, and rows in that format. -/
def rowFormat (g : Grammar) : Read Phrase := do
  if ← keyword "FORMAT" then
    let name ← identifier
    let values ← attempt g.exprs
    return .text ("FORMAT " ++ name.render) ++ .optional " " (values.map .list)
  return .empty

/-- The columns of an `INSERT` and what they get. -/
structure Content where
  columns : List Ident := []
  partition : Phrase := {}
  source : Option Query := none
  assignments : Phrase := {}

/-- The columns of an `INSERT` and what they get, behind the target. -/
def content (g : Grammar) : Read Content := do
  if ← keywords ["DEFAULT", "VALUES"] then return {}
  let (columns, partition) ← do
    if (← isSymbol "(") && (← keywordAt 1) == "SELECT" then pure ([], .empty)
    else
      let columns ← columnNames true (← allows Rules.emptyLists)
      pure (columns, ← partition g)
  if (← isKeyword "FORMAT") || (← isKeyword "SETTINGS") then return { columns, partition }
  if ← only (← allows Rules.insertSet) (keyword "SET") then
    return { columns, partition, assignments := .text "SET " ++ (← assignments g) }
  return { columns, partition, source := some (← g.query) }

/-- Rows that are written to a directory, behind `DIRECTORY`. -/
def directory (g : Grammar) : Read (Statement × Phrase) := do
  let path ← literalString
  if ← keywords ["STORED", "AS"] then TableReader.fileFormat
  let q ← g.query
  return (.other "INSERT", .text ("INSERT DIRECTORY '" ++ path ++ "' ") ++ q.phrase)

/-- `INSERT` as a statement and as a phrase. -/
def insertForm (g : Grammar) : Read (Statement × Phrase) := do
  let rules ← rules
  let handling ← conflict
  let priority ← do
    if rules.insertPriority then oneOf ["LOW_PRIORITY", "DELAYED", "HIGH_PRIORITY"] else pure none
  let ignores ← if rules.insertPriority then marked "IGNORE" else pure ""
  let overwrites ← marked "OVERWRITE"
  let into ← marked "INTO"
  ignore (keyword "LOCAL")
  if ← keyword "DIRECTORY" then return ← directory g
  let tableWord ← marked "TABLE"
  let (target, shownTarget) ← target g
  let rename ← whenTaken (only rules.targetAlias (keyword "AS")) identifier
  let c ← content g
  let settings ← if rules.insertFormat then settings g else pure none
  let format ← if rules.insertFormat then rowFormat g else pure .empty
  let rowName ← rowAlias
  let onConflict ← onConflict g
  let returning ← returning g
  let lead := if handling.isEmpty then
      "INSERT" ++ ((priority.map (" " ++ ·)).getD "") ++ ignores ++ overwrites ++ into ++ tableWord ++ " "
    else "INSERT" ++ handling ++ " INTO "
  let columns := if c.columns.isEmpty then "" else "(" ++ PropertyReader.showNames c.columns ++ ") "
  let shownSource := (c.source.map Query.phrase).getD .empty
  let isDefault := c.source.isNone && c.assignments.layout.isEmpty && format.layout.isEmpty &&
    c.columns.isEmpty
  let phrase := Phrase.ranked
    [(0, .text lead ++ shownTarget ++ RenameReader.showAlias rename ++ .text (" " ++ columns)),
      (3, c.partition), (6, .optional "" (settings.map (· ++ .text " "))), (1, shownSource),
      (2, c.assignments), (7, format), (7, .text (if isDefault then "DEFAULT VALUES" else "")),
      (7, .text rowName), (4, onConflict), (5, returning)]
  return (.insert { target, columns := c.columns, source := c.source }, phrase)

/-- `INSERT` -/
def insert (g : Grammar) : Read Statement := do return (← insertForm g).1

/-! ### `UPDATE` and `DELETE` -/

/-- `UPDATE`. A walk comes to the new values before the tables that they are taken from. -/
def update (g : Grammar) : Read Phrase := do
  let handling ← conflict
  let table ← joinedTable g
  let source : Read Phrase := do
    if ← keyword "FROM" then return .text " FROM " ++ (← tables g)
    return .empty
  let early ← source
  expectKeyword "SET"
  let given ← assignments g
  let late ← if early.layout.isEmpty then source else pure .empty
  let condition ← condition g
  let returning ← returning g
  let limit ← exprClause g "LIMIT"
  return .ranked [(0, .text ("UPDATE" ++ handling ++ " ") ++ table), (2, early),
    (1, .text " SET " ++ given), (2, late), (3, condition ++ returning ++ limit)]

/-- `DELETE` -/
def delete (g : Grammar) : Read Phrase := do
  let lead ← do
    if ← keyword "FROM" then pure "FROM "
    else if ← allows Rules.deleteWithoutFrom then pure ""
    else
      let names ← commaSeparated objectName
      expectKeyword "FROM"
      pure (", ".intercalate (names.map renderName) ++ " FROM ")
  let source ← tables g
  let used ← do
    if ← keyword "USING" then pure (Phrase.text " USING " ++ (← tables g)) else pure .empty
  let condition ← condition g
  let returning ← returning g
  let order ← do
    if ← keywords ["ORDER", "BY"] then
      pure (Phrase.text " ORDER BY " ++ (← CallReader.orderItems g))
    else pure .empty
  let limit ← do
    let all : Read Bool := keyword "ALL"
    if ← both (keyword "LIMIT") (not <$> all) then
      pure (Phrase.text " LIMIT " ++ .expr (← g.anyExpr))
    else pure .empty
  return .text ("DELETE " ++ lead) ++ source ++ used ++ condition ++ returning ++ order ++
    limit

/-! ### `MERGE` -/

/-- The rows that a part of a `MERGE` is about. -/
def mergeKind : Read String := do
  let negated ← keyword "NOT"
  expectKeyword "MATCHED"
  unless negated do return "MATCHED"
  if ← keywords ["BY", "SOURCE"] then return "NOT MATCHED BY SOURCE"
  if ← keywords ["BY", "TARGET"] then return "NOT MATCHED BY TARGET"
  return "NOT MATCHED"

/-- The rows that are inserted by a part of a `MERGE`. -/
def mergeInsert (g : Grammar) : Read Phrase := do
  let empty ← allows Rules.emptyLists
  let columns ← columnNames true empty
  let lead := if columns.isEmpty then "" else "(" ++ PropertyReader.showNames columns ++ ") "
  if ← only (← allows Rules.mergeRows) (keyword "ROW") then return .text ("INSERT " ++ lead ++ "ROW")
  expectKeyword "VALUES"
  return .text ("INSERT " ++ lead) ++ (← rows g "VALUES" empty).phrase

/-- What is done with the rows that a part of a `MERGE` is about. Rows that are there are not
inserted, and rows that are not there are neither changed nor deleted. -/
def mergeAction (g : Grammar) (kind : String) : Read Phrase := do
  let start ← rest
  let absent := kind == "NOT MATCHED" || kind == "NOT MATCHED BY TARGET"
  let allow (key : String) (allowed : Bool) : Read Unit := do
    unless allowed do failAt (key ++ " is not allowed in a " ++ kind ++ " merge clause") start
  match ← oneOf ["UPDATE", "INSERT", "DELETE"] with
  | some "UPDATE" =>
    allow "UPDATE" !absent
    expectKeyword "SET"
    return .text "UPDATE SET " ++ (← assignments g)
  | some "DELETE" =>
    allow "DELETE" !absent
    return .text "DELETE"
  | some _ =>
    allow "INSERT" absent
    mergeInsert g
  | none => failHere "expected UPDATE, DELETE or INSERT in merge clause"

/-- A part of a `MERGE`. -/
def mergeClause (g : Grammar) : Read (Option Phrase) := do
  unless ← keyword "WHEN" do return none
  let kind ← mergeKind
  let condition ← whenTaken (keyword "AND") g.anyExpr
  expectKeyword "THEN"
  let action ← mergeAction g kind
  return some (.text (" WHEN " ++ kind) ++ .optional " AND " (condition.map .expr) ++
    .text " THEN " ++ action)

/-- `MERGE` -/
def merge (g : Grammar) : Read Phrase := do
  let lead ← marked "INTO"
  let table ← g.tableFactor
  expectKeyword "USING"
  let source ← g.tableFactor
  expectKeyword "ON"
  let e ← g.anyExpr
  let clauses ← many (mergeClause g)
  let output ← do
    match ← oneOf ["OUTPUT", "RETURNING"] with
    | none => pure Phrase.empty
    | some k =>
      let found ← items g
      let target ← if k == "OUTPUT" then into else pure ""
      pure (.text (" " ++ k ++ " ") ++ .commas found ++ .text target)
  return .text ("MERGE" ++ lead ++ " ") ++ table.phrase ++ .text " USING " ++ source.phrase ++ .text " ON " ++
    .expr e ++ .concat clauses ++ output

/-- A statement that changes rows, in the place of a query. -/
def modifying (g : Grammar) : Read Phrase := do
  match ← next with
  | some t =>
    match t.keyword with
    | "INSERT" => return (← insertForm g).2
    | "UPDATE" => update g
    | "DELETE" => delete g
    | _ => merge g
  | none => expected "an SQL statement"

/-! ### `TRUNCATE` -/

/-- A table to empty. -/
def truncated : Read Unit := do
  ignore (keyword "ONLY")
  ignore objectName

/-- `TRUNCATE` -/
def truncate (g : Grammar) : Read Unit := do
  ignore (keyword "TABLE")
  ignore (commaSeparated truncated)
  ignore (partition g)
  if ← allows Rules.truncateOptions then
    ignore (anyOf [["RESTART", "IDENTITY"], ["CONTINUE", "IDENTITY"]])
    ignore (oneOf ["CASCADE", "RESTRICT"])
  if ← keywords ["ON", "CLUSTER"] then ignore identifier

end TableFeed.Sql.ModifyReader
