import TableFeed.Sql.Parser.Rename

/-!
# Turned tables

`PIVOT` makes columns of the values of a column, `UNPIVOT` makes rows of columns. Both stand
behind a table and may follow one another.

    t PIVOT(SUM(a) FOR m IN ('x', 'y' AS z)) AS p
    t UNPIVOT INCLUDE NULLS (a FOR m IN (x, y)) AS p
-/

namespace TableFeed.Sql.PivotReader

open Read RenameReader

/-- A call of a function by its name, which must be a word, with another name for it. -/
def aggregate (g : Grammar) : Read Phrase := do
  let name ← do
    match ← next with
    | some (.word w) => pure w.text
    | _ => expected "a function identifier"
  let e ← CallReader.call g (FormReader.interval g) [{ text := name }]
  return .expr e ++ showAlias (← explicitAlias)

/-- An expression with another name for it. -/
def aliased (g : Grammar) : Read Phrase := do
  let e ← g.anyExpr
  return .expr e ++ showAlias (← explicitAlias)

/-- The columns whose values become columns. -/
def valueColumns (g : Grammar) : Read Phrase := do
  let one : Read Expr := do g.expr (← level .between)
  let columns ← if ← isSymbol "(" then columnList one false false else pure [← one]
  match columns with
  | [e] => return .expr e
  | _ => return .inParens (.list columns)

/-- The values that become columns. -/
def valueSource (g : Grammar) : Read Phrase := do
  if ← keyword "ANY" then
    if ← keywords ["ORDER", "BY"] then return .text "ANY ORDER BY " ++ (← CallReader.orderItems g)
    return .text "ANY"
  if (← isKeyword "SELECT") || (← isKeyword "WITH") then return (← g.query).phrase
  return .commas (← commaSeparated (aliased g))

/-- The parts of a `PIVOT` behind the opening parenthesis. The pipe names one column only. -/
def pivotBody (g : Grammar) (columns : Read Phrase) : Read Phrase := do
  let aggregates ← commaSeparated (aggregate g)
  expectKeyword "FOR"
  let column ← columns
  expectKeyword "IN"
  let source ← inParens (valueSource g)
  return .commas aggregates ++ .text " FOR " ++ column ++ .text " IN " ++ .inParens source

/-- `PIVOT` behind a table. -/
def pivot (g : Grammar) (t : TableFactor) : Read TableFactor := do
  expectSymbol "("
  let body ← pivotBody g (valueColumns g)
  let default ← do
    if ← keywords ["DEFAULT", "ON", "NULL"] then
      let e ← inParens g.anyExpr
      pure (Phrase.text " DEFAULT ON NULL (" ++ .expr e ++ .text ")")
    else pure .empty
  expectSymbol ")"
  renamed g (t.phrase ++ .text " PIVOT(" ++ body ++ default ++ .text ")")

/-- Whether rows without a value are made too. -/
def nullInclusion : Read String := do
  match ← oneOf ["INCLUDE", "EXCLUDE"] with
  | some k =>
    expectKeyword "NULLS"
    return " " ++ k ++ " NULLS"
  | none => return ""

/-- `UNPIVOT` behind a table. -/
def unpivot (g : Grammar) (t : TableFactor) : Read TableFactor := do
  let nulls ← nullInclusion
  expectSymbol "("
  let e ← g.anyExpr
  expectKeyword "FOR"
  let name ← identifier
  expectKeyword "IN"
  let columns ← columnList (aliased g) false false
  expectSymbol ")"
  renamed g (t.phrase ++ .text (" UNPIVOT" ++ nulls ++ " (") ++ .expr e ++
    .text (" FOR " ++ name.render ++ " IN ") ++ .inParens (.commas columns) ++ .text ")")

/-- A table with everything that turns it. -/
def turned (g : Grammar) (t : TableFactor) : Read TableFactor :=
  iterate t fun t => do
    match ← oneOf ["PIVOT", "UNPIVOT"] with
    | some "PIVOT" => return some (← pivot g t)
    | some _ => return some (← unpivot g t)
    | none => return none

end TableFeed.Sql.PivotReader
