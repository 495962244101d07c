import TableFeed.Sql.Parser.Select

/-!
# Pipes

Behind a query, steps may follow one another. Each step takes the rows of what stands before it.

    FROM t |> WHERE a = 1 |> AGGREGATE SUM(b) GROUP BY c |> LIMIT 3
-/

namespace TableFeed.Sql.PipeReader

open Read RenameReader FromReader QueryReader

/-! ### Parts of steps -/

/-- The words that a step begins with. -/
def words : List String :=
  ["SELECT", "EXTEND", "SET", "DROP", "AS", "WHERE", "LIMIT", "AGGREGATE", "ORDER", "TABLESAMPLE",
    "RENAME", "UNION", "INTERSECT", "EXCEPT", "CALL", "PIVOT", "UNPIVOT", "JOIN", "INNER", "LEFT",
    "RIGHT", "FULL", "CROSS"]

/-- Another name for the result of a step. Without `AS` it may be any word or text. -/
def resultAlias : Read Phrase := do
  if ← keyword "AS" then return showAlias (some (← identifier))
  return showAlias (← identifier?)

/-- Names up to a sign that ends them; anything else between them is passed over. -/
def names : Read (List Ident) := do
  let found ← many do
    match ← peek 0 with
    | none | some (.symbol "=") | some (.symbol ";") | some (.symbol "|>") => return none
    | some (.word w) =>
      skip
      return some [({ text := w.text, quote := w.quote } : Ident)]
    | some _ =>
      skip
      return some []
  return found.flatten

/-- An expression with another name for it and the order in which it sorts. -/
def sortedItem (g : Grammar) : Read Phrase := do
  let e ← g.anyExpr
  let rename ← aliasUnless ["ASC", "DESC", "GROUP"]
  let direction ← oneOf ["ASC", "DESC"]
  return .expr e ++ showAlias rename ++ .text ((direction.map (" " ++ ·)).getD "")

/-- What a step sums up, and in which groups. -/
def aggregation (g : Grammar) : Read Phrase := do
  let items ← do
    if ← isKeyword "GROUP" then pure []
    else commaSeparated (sortedItem g)
  let groups ← do
    if ← keywords ["GROUP", "BY"] then commaSeparated (sortedItem g) else pure []
  return .text "AGGREGATE" ++ .clause " " items ++ .clause " GROUP BY " groups

/-- A new name for a column. -/
def renamedColumn : Read String := do
  let old ← identifier
  let _ ← keyword "AS"
  return old.render ++ " AS " ++ (← identifier).render

/-- What a set operation does with rows that occur more than once. -/
def quantifier : Read String := do
  match ← firstOf [["DISTINCT", "BY", "NAME"], ["BY", "NAME"], ["ALL", "BY", "NAME"], ["ALL"],
    ["DISTINCT"]] with
  | some ks => return " " ++ " ".intercalate ks
  | none => return ""

/-- Queries in parentheses with commas between them. -/
def queries (g : Grammar) : Read Phrase := do
  return .commas ((← commaSeparated g.subquery).map fun q => .inParens q.phrase)

/-- A set operation, which may have to leave out rows that occur more than once. -/
def setOperation (g : Grammar) (key : String) (distinct : Bool) : Read Phrase := do
  let words ← quantifier
  if distinct && words ≠ " DISTINCT" && words ≠ " DISTINCT BY NAME" then
    throw (.message (key ++ " pipe operator requires DISTINCT modifier") none)
  return .text (key ++ words ++ " ") ++ (← queries g)

/-- The names of columns that become values, behind `UNPIVOT`. -/
def unpivot : Read Phrase := do
  let shown ← inParens do
    let value ← identifier
    expectKeyword "FOR"
    let name ← identifier
    expectKeyword "IN"
    let columns ← inParens (commaSeparated identifier)
    return value.render ++ " FOR " ++ name.render ++ " IN (" ++ PropertyReader.showNames columns ++ ")"
  return .text ("UNPIVOT(" ++ shown ++ ")") ++ (← resultAlias)

/-- Exactly one join. -/
def oneJoin (g : Grammar) : Read Phrase := do
  match ← many (join g) with
  | [j] => return j
  | _ => throw (.message "Join pipe operator must have a single join" none)

/-! ### Steps -/

/-- A step that begins with a word, read behind the word; `start` are the tokens from the word
on. -/
def stepOf (g : Grammar) (start : List Lexeme) (key : String) : Read Phrase := do
  match key with
  | "SELECT" | "EXTEND" => return .text (key ++ " ") ++ .commas (← commaSeparated (item g))
  | "SET" => return .text "SET " ++ .commas (← commaSeparated (assignment g))
  | "DROP" => return .text ("DROP " ++ PropertyReader.showNames (← names))
  | "AS" => return .text ("AS " ++ (← identifier).render)
  | "WHERE" => return .text "WHERE " ++ .expr (← g.anyExpr)
  | "LIMIT" =>
    let amount ← g.anyExpr
    let offset ← whenTaken (keyword "OFFSET") g.anyExpr
    return .text "LIMIT " ++ .expr amount ++ .optional " OFFSET " (offset.map .expr)
  | "AGGREGATE" => aggregation g
  | "ORDER" =>
    let _ ← expectOneOf ["BY"]
    return .text "ORDER BY " ++ (← CallReader.orderItems g)
  | "TABLESAMPLE" =>
    goTo start
    sample g
  | "RENAME" => return .text ("RENAME " ++ ", ".intercalate (← commaSeparated renamedColumn))
  | "UNION" => setOperation g key false
  | "INTERSECT" | "EXCEPT" => setOperation g key true
  | "CALL" =>
    let name ← objectName
    let e ← CallReader.call g (FormReader.interval g) name
    return .text "CALL " ++ .expr e ++ (← resultAlias)
  | "PIVOT" =>
    let column : Read Phrase := do return .text (renderName (← dotted fun _ => identifier))
    let body ← inParens (PivotReader.pivotBody g column)
    return .text "PIVOT" ++ .inParens body ++ (← resultAlias)
  | "UNPIVOT" => unpivot
  | _ =>
    goTo start
    oneJoin g

/-- Steps behind a query, where the dialect has them. -/
def steps (g : Grammar) : Read Phrase := do
  unless ← allows Rules.pipeOperators do return .empty
  let found ← many do
    unless ← symbol "|>" do return none
    let start ← rest
    let key ← expectOneOf words
    return some (.text " |> " ++ (← stepOf g start key))
  return .concat found

end TableFeed.Sql.PipeReader
