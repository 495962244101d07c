import TableFeed.Sql.Parser.Document
import TableFeed.Sql.Parser.Pivot
import TableFeed.Sql.Parser.RowPattern

/-!
# The `FROM` clause

Tables, what may stand in the place of a table, and joins between them.

    t AS a  JOIN  (SELECT 1) AS b  ON a.x = b.x  CROSS JOIN  UNNEST(c)
-/

namespace TableFeed.Sql.FromReader

open Read RenameReader

/-! ### Settings and rows -/

/-- Settings, where the dialect has them. -/
def settings (g : Grammar) : Read (Option Phrase) := do
  if ← only (← allows Rules.settings) (keyword "SETTINGS") then
    let one : Read Phrase := do
      let key ← identifier
      expectSymbol "="
      return .text (key.render ++ " = ") ++ .expr (← g.anyExpr)
    return some (.text "SETTINGS " ++ .commas (← commaSeparated one))
  return none

/-- A row of values, and whether it begins with a keyword. -/
def row (g : Grammar) (allowEmpty : Bool) : Read (List Expr × Bool) := do
  let explicit ← keyword "ROW"
  expectSymbol "("
  if ← only allowEmpty (symbol ")") then return ([], explicit)
  let values ← g.exprs
  expectSymbol ")"
  return (values, explicit)

/-- Rows of values behind `word`. If one of them begins with a keyword all are shown so. -/
def rows (g : Grammar) (word : String) (allowEmpty : Bool) : Read Rows := do
  let (first, others) ← oneAndOthers (row g allowEmpty)
  let isExplicit := first.2 || others.any (·.2)
  return { word, lead := if isExplicit then "ROW" else "", rows := first.1 :: others.map (·.1) }

/-! ### Samples -/

/-- The number that a random choice of rows begins with. -/
def seed : Read String := do
  match ← oneOf ["REPEATABLE", "SEED"] with
  | some k => return " " ++ k ++ " (" ++ (← inParens numberValue).render ++ ")"
  | none => return ""

/-- One of several buckets that the rows are spread over, behind `BUCKET`. -/
def bucket (g : Grammar) : Read Phrase := do
  let chosen ← numberValue
  expectKeywords ["OUT", "OF"]
  let total ← numberValue
  let on ← whenTaken (keyword "ON") g.anyExpr
  return .text ("BUCKET " ++ chosen.render ++ " OUT OF " ++ total.render) ++
    .optional " ON " (on.map .expr)

/-- How much of a table is taken. -/
def quantity (g : Grammar) : Read Phrase := do
  let amount ← do
    match ← attempt g.anyExpr with
    | some e => pure (Phrase.expr e)
    | none =>
      match ← next with
      | some (.word w) => pure (.expr (.literal (.placeholder w.text)))
      | _ => failHere "Expecting number or byte length e.g. 100M"
  return amount ++ .text (((← oneOf ["ROWS", "PERCENT"]).map (" " ++ ·)).getD "")

/-- A sample of a table. The bucket is shown behind the seed. -/
def sample (g : Grammar) : Read Phrase := do
  match ← oneOf ["TABLESAMPLE", "SAMPLE"] with
  | none => return .empty
  | some k =>
    let method := ((← oneOf ["BERNOULLI", "ROW", "SYSTEM", "BLOCK"]).map (" " ++ ·)).getD ""
    let parens ← symbol "("
    let chosen ← whenTaken (only parens (keyword "BUCKET")) (bucket g)
    let amount ← if chosen.isSome then pure none else pure (some (← quantity g))
    if parens then expectSymbol ")"
    let seed ← seed
    let offset ← whenTaken (keyword "OFFSET") g.anyExpr
    let shown (p : Option Phrase) : Phrase :=
      .optional " " (p.map fun p => if parens then .inParens p else p)
    return .text (" " ++ k ++ method) ++ shown amount ++ .text seed ++ shown chosen ++
      .optional " OFFSET " (offset.map .expr)

/-! ### Tables -/

/-- A query in the place of a table, behind the opening parenthesis. -/
def derived (g : Grammar) (lead : String) : Read TableFactor := do
  let q ← g.query
  expectSymbol ")"
  renamed g (.text lead ++ .inParens q.phrase)

/-- Arguments of a function in the place of a table, behind the opening parenthesis. -/
def tableArguments (g : Grammar) : Read Phrase := do
  if ← symbol ")" then return .empty
  let args ← commaSeparated (CallReader.argument g)
  expectSymbol ")"
  return .commas args

/-- Arguments and settings of a table that is made by a function, behind the opening
parenthesis. Nothing follows the settings. -/
def functionArguments (g : Grammar) : Read Phrase := do
  if ← symbol ")" then return .empty
  let (found, _) ← iterate ([], true) fun (found, more) => do
    unless more do return none
    match ← settings g with
    | some s => return some (s :: found, false)
    | none =>
      let a ← CallReader.argument g
      return some (a :: found, ← symbol ",")
  expectSymbol ")"
  return .commas found.reverse

/-- Hints which indexes to use. -/
def indexHints : Read (List String) := many do
  match ← oneOf ["USE", "IGNORE", "FORCE"] with
  | none => return none
  | some k =>
    let kind ← expectOneOf ["INDEX", "KEY"]
    let purpose ← do
      if ← keyword "FOR" then
        if ← keyword "JOIN" then pure " FOR JOIN"
        else if ← keywords ["ORDER", "BY"] then pure " FOR ORDER BY"
        else if ← keywords ["GROUP", "BY"] then pure " FOR GROUP BY"
        else expected "JOIN, ORDER BY or GROUP BY"
      else pure ""
    let names ← inParens (commaSeparated0 identifier ")")
    return some (k ++ " " ++ kind ++ purpose ++ " (" ++ PropertyReader.showNames names ++ ")")

/-- The time as of which a table is read. -/
def version (g : Grammar) : Read Phrase := do
  unless ← allows Rules.timeTravel do return .empty
  if ← keywords ["FOR", "SYSTEM_TIME", "AS", "OF"] then
    return .text " FOR SYSTEM_TIME AS OF " ++ .expr (← g.anyExpr)
  if (← isKeyword "AT") || (← isKeyword "BEFORE") then
    let name ← objectName
    return .text " " ++ .expr (← CallReader.call g (FormReader.interval g) name)
  return .empty

/-- Hints in parentheses behind `WITH`. -/
def tableHints (g : Grammar) : Read Phrase := do
  if (← isKeyword "WITH") && (← isSymbolAt 1 "(") then
    skip
    return .text " WITH " ++ .inParens (.list (← inParens g.exprs))
  return .empty

/-- A table by its name, or a function that gives one. A walk comes to its hints before its
version and its sample. -/
def namedTable (g : Grammar) : Read TableFactor := do
  let name ← objectName
  let rules ← rules
  let partitions ← whenTaken (only rules.partitionSelection (keyword "PARTITION")) parenthesizedNames
  let version ← version g
  let args ← whenTaken (symbol "(") (functionArguments g)
  let ordinality ← keywords ["WITH", "ORDINALITY"]
  let early ← if rules.sampleBeforeAlias then sample g else pure .empty
  let rename ← tableAlias g
  let hints ← if rules.tableHints then pure ((← attempt indexHints).getD []) else pure []
  let withHints ← tableHints g
  let late ← if rules.sampleBeforeAlias then pure .empty else sample g
  let shownPartitions :=
    (partitions.map fun ps => " PARTITION (" ++ PropertyReader.showNames ps ++ ")").getD ""
  let shownHints := if hints.isEmpty then "" else " " ++ " ".intercalate hints
  return {
    before := [(0, .text (renderName name ++ shownPartitions)),
      (1, .optional "" (args.map .inParens)),
      (1, .text (if ordinality then " WITH ORDINALITY" else "")), (4, early)]
    rename
    behind := [(1, .text shownHints), (2, withHints), (3, version), (4, late)] }

/-! ### Joins -/

/-- The condition of a join. -/
def joinCondition (g : Grammar) (natural : Bool) : Read Phrase := do
  if natural then return .empty
  if ← keyword "ON" then return .text " ON " ++ .expr (← g.anyExpr)
  if ← keyword "USING" then
    let columns ← columnList objectName false false
    return .text (" USING(" ++ ", ".intercalate (columns.map renderName) ++ ")")
  return .empty

/-- The words of a join between its first one and its table. -/
def joinWords (natural : Bool) : Read (Option String) := do
  let key ← keywordAt 0
  let lead := if natural then "NATURAL " else ""
  match key with
  | "JOIN" => do skip; return some (lead ++ "JOIN ")
  | "INNER" => do skip; expectKeyword "JOIN"; return some (lead ++ "INNER JOIN ")
  | "LEFT" | "RIGHT" =>
    skip
    match ← oneOf ["OUTER", "SEMI", "ANTI", "JOIN"] with
    | some "JOIN" => return some (lead ++ key ++ " JOIN ")
    | some kind =>
      expectKeyword "JOIN"
      return some (lead ++ key ++ " " ++ kind ++ " JOIN ")
    | none => throw (.message ("expected OUTER, SEMI, ANTI or JOIN after " ++ key) none)
  | "ANTI" | "SEMI" => do skip; expectKeyword "JOIN"; return some (lead ++ key ++ " JOIN ")
  | "FULL" =>
    skip
    let _ ← keyword "OUTER"
    expectKeyword "JOIN"
    return some (lead ++ "FULL JOIN ")
  | "OUTER" => expected "LEFT, RIGHT, or FULL"
  | "STRAIGHT_JOIN" => do skip; return some (lead ++ "STRAIGHT_JOIN ")
  | _ => if natural then expected "a join type after NATURAL" else return none

/-- One join, if one follows. -/
def join (g : Grammar) : Read (Option Phrase) := do
  let lead := if ← keyword "GLOBAL" then "GLOBAL " else ""
  if ← keyword "CROSS" then
    let kind ← do
      match ← oneOf ["JOIN", "APPLY"] with
      | some k => pure k
      | none => expected "JOIN or APPLY after CROSS"
    let table ← g.tableFactor
    let condition ←
      if kind == "JOIN" && (← allows Rules.crossJoinCondition) then joinCondition g false
      else pure .empty
    return some (.text (lead ++ "CROSS " ++ kind ++ " ") ++ table.phrase ++ condition)
  if ← keyword "OUTER" then
    expectKeyword "APPLY"
    return some (.text (lead ++ "OUTER APPLY ") ++ (← g.tableFactor).phrase)
  if ← keyword "ASOF" then
    expectKeyword "JOIN"
    let table ← g.tableFactor
    expectKeyword "MATCH_CONDITION"
    let condition ← inParens g.anyExpr
    let more ← joinCondition g false
    return some (.text (lead ++ "ASOF JOIN ") ++ table.phrase ++ .text " MATCH_CONDITION (" ++
      .expr condition ++ .text ")" ++ more)
  let natural ← keyword "NATURAL"
  match ← joinWords natural with
  | none => return none
  | some words =>
    let table ← g.tableFactor
    return some (.text (lead ++ words) ++ table.phrase ++ (← joinCondition g natural))

/-- A table, and what is joined to it. -/
def tableWithJoins (g : Grammar) : Read (TableFactor × List Phrase) := do
  let first ← g.tableFactor
  return (first, ← many (join g))

/-- Joins behind a table. -/
def showJoins (joins : List Phrase) : Phrase := .concat (joins.map (.text " " ++ ·))

/-- A table with what is joined to it. -/
def joinedTable (g : Grammar) : Read Phrase := do
  let (first, joins) ← tableWithJoins g
  return first.phrase ++ showJoins joins

/-- A single table in parentheses. Its other name may stand behind them, but not if it has one
inside already. -/
def enclosed (g : Grammar) (t : TableFactor) : Read TableFactor := do
  expectSymbol ")"
  match ← tableAlias g, t.rename with
  | some _, some inner => throw (.message ("duplicate alias " ++ inner.render) none)
  | some outer, none => return { t with rename := some outer }
  | none, _ => return t

/-- What an opening parenthesis begins in the place of a table: a query, or a join. -/
def parenthesized (g : Grammar) : Read TableFactor := do
  match ← attempt (derived g "") with
  | some t => PivotReader.turned g t
  | none =>
    let (inner, joins) ← tableWithJoins g
    if !joins.isEmpty || inner.isNestedJoin then
      expectSymbol ")"
      let t ← renamed g (.inParens (inner.phrase ++ showJoins joins))
      return { t with isNestedJoin := true }
    if ← allows Rules.parenthesizedTables then enclosed g inner
    else expected "joined table"

/-- An array in the place of a table. The word `WITH` behind it is taken even where no offset
follows. -/
def unnest (g : Grammar) : Read TableFactor := do
  let arrays ← inParens g.exprs
  let ordinality ← keywords ["WITH", "ORDINALITY"]
  let rename ← tableAlias g
  let offset ← do
    if ← both (keyword "WITH") (keyword "OFFSET") then
      match ← aliasUnless reservedColumnAliases with
      | some n => pure (" WITH OFFSET AS " ++ n.render)
      | none => pure " WITH OFFSET"
    else pure ""
  return {
    before := [(0, .text "UNNEST" ++ .inParens (.list arrays)),
      (0, .text (if ordinality then " WITH ORDINALITY" else ""))]
    rename
    behind := [(0, .text offset)] }

/-- Takes a word and the opening parenthesis behind it, if both come next. -/
def opens (k : String) : Read Bool := do
  if (← isKeyword k) && (← isSymbolAt 1 "(") then
    skip
    skip
    return true
  return false

/-- A table, or what stands in the place of one. -/
def tableFactor (g : Grammar) : Read TableFactor := do
  let rules ← rules
  if ← keyword "LATERAL" then
    if ← symbol "(" then derived g "LATERAL "
    else
      let name ← objectName
      expectSymbol "("
      let args ← tableArguments g
      renamed g (.text ("LATERAL " ++ renderName name) ++ .inParens args)
  else if ← keyword "TABLE" then
    let e ← inParens g.anyExpr
    renamed g (.text "TABLE" ++ .inParens (.expr e))
  else if ← symbol "(" then parenthesized g
  else if rules.valuesTables && (← isKeyword "VALUES") && (← isSymbolAt 1 "(") then
    skip
    renamed g (.inParens (← rows g "VALUES" false).phrase)
  else if ← only rules.unnest (keyword "UNNEST") then unnest g
  else if ← opens "JSON_TABLE" then DocumentReader.jsonTable g
  else if ← opens "OPENJSON" then DocumentReader.openJson g
  else if ← opens "XMLTABLE" then DocumentReader.xmlTable g
  else
    let t ← PivotReader.turned g (← namedTable g)
    if ← only rules.rowPatterns (keyword "MATCH_RECOGNIZE") then RowPattern.recognized g t
    else return t

/-- The tables of a `FROM` clause. -/
def tables (g : Grammar) : Read Phrase := do
  return .commas (← commaSeparated (joinedTable g))

end TableFeed.Sql.FromReader
