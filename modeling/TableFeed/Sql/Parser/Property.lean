import TableFeed.Sql.Parser.Grammar

/-!
# Properties

Options in parentheses, most of them a key with its value. A few dialects have others too, which
say how the rows of a table are stored:

    WITH (x = 1, HEAP, CLUSTERED INDEX (a DESC), PARTITION (b RANGE LEFT FOR VALUES (1, 2)))
-/

namespace TableFeed.Sql.PropertyReader

open Read

/-- Names with commas between them, as they are shown. -/
def showNames (names : List Ident) : String := ", ".intercalate (names.map Ident.render)

/-- The ranges that the rows are divided into, behind `PARTITION`. -/
def ranges (g : Grammar) : Read Phrase := do
  expectSymbol "("
  let column ← identifier
  expectKeyword "RANGE"
  let side := ((← oneOf ["LEFT", "RIGHT"]).map (" " ++ ·)).getD ""
  expectKeywords ["FOR", "VALUES"]
  let bounds ← inParens g.exprs
  expectSymbol ")"
  return .text ("PARTITION (" ++ column.render ++ " RANGE" ++ side ++ " FOR VALUES (") ++
    .list bounds ++ .text "))"

/-- A column that the rows are kept in the order of. -/
def sortedColumn : Read String := do
  let name ← identifier
  return name.render ++ ((← oneOf ["ASC", "DESC"]).map (" " ++ ·)).getD ""

/-- The order in which the rows are kept, before `CLUSTERED`. -/
def clustered : Read Phrase := do
  if ← keywords ["CLUSTERED", "COLUMNSTORE", "INDEX", "ORDER"] then
    let columns ← columnNames false false
    return .text ("CLUSTERED COLUMNSTORE INDEX ORDER (" ++ showNames columns ++ ")")
  else if ← keywords ["CLUSTERED", "COLUMNSTORE", "INDEX"] then
    return .text "CLUSTERED COLUMNSTORE INDEX"
  else if ← keywords ["CLUSTERED", "INDEX"] then
    let columns ← inParens (commaSeparated sortedColumn)
    return .text ("CLUSTERED INDEX (" ++ ", ".intercalate columns ++ ")")
  else throw (.message "invalid CLUSTERED sequence" none)

/-- A property. -/
def property (g : Grammar) : Read Phrase := do
  let key ← if ← allows Rules.storageOptions then keywordAt 0 else pure ""
  match key with
  | "HEAP" => return .text (← identifier).render
  | "PARTITION" =>
    skip
    ranges g
  | "CLUSTERED" => clustered
  | _ =>
    let name ← identifier
    expectSymbol "="
    return .text (name.render ++ " = ") ++ .expr (← g.anyExpr)

/-- Properties behind some keywords; none if the keywords do not come next. -/
def properties (g : Grammar) (words : List String) : Read (List Phrase) := do
  if ← keywords words then inParens (commaSeparated0 (property g) ")") else return []

end TableFeed.Sql.PropertyReader
