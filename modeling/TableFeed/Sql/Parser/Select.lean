import TableFeed.Sql.Parser.From

/-!
# `SELECT`

What is selected, from where, under which conditions and in which groups. A walk comes to the
clauses in a fixed order, whichever of them is written first.

    FROM t SELECT a        is walked as        SELECT a FROM t
-/

namespace TableFeed.Sql.QueryReader

open Read RenameReader FromReader

/-! ### What is selected -/

/-- A column that takes the place of another one. -/
def replacement (g : Grammar) : Read Phrase := do
  let e ← g.anyExpr
  let explicit ← keyword "AS"
  let name ← identifier
  return .expr e ++ .text ((if explicit then " AS " else " ") ++ name.render)

/-- A new name for a column. -/
def renamedColumn : Read String := do
  let old ← identifier
  expectKeyword "AS"
  return old.render ++ " AS " ++ (← identifier).render

/-- Something alone, or several in parentheses, as it is shown. -/
def oneOrMany (p : Read String) : Read String := do
  if ← isSymbol "(" then return "(" ++ ", ".intercalate (← inParens (commaSeparated p)) ++ ")"
  p

/-- The columns that a `*` is limited to by a pattern. -/
def wildcardPattern : Read String := do
  match ← peek 0 with
  | some (.quoted .single s) =>
    skip
    return " ILIKE " ++ quotedText s
  | _ => refuse "ilike pattern"

/-- The columns that a `*` leaves out. -/
def excepted : Read String := do
  let names ← if ← isSymbol "(" then columnNames false false else pure [← identifier]
  return " EXCEPT (" ++ PropertyReader.showNames names ++ ")"

/-- The columns that take the places of others. -/
def replaced (g : Grammar) : Read Phrase := do
  unless ← isSymbol "(" do refuse "( after REPLACE but"
  return .text " REPLACE " ++ .inParens (.commas (← inParens (commaSeparated (replacement g))))

/-- What may follow a `*`. -/
def wildcardOptions (g : Grammar) : Read Phrase := do
  let rules ← rules
  let option (allowed : Bool) (key : String) (p : Read Phrase) : Read Phrase := do
    if ← only allowed (keyword key) then p else return .empty
  let like ← option rules.wildcardIlike "ILIKE" do return .text (← wildcardPattern)
  let excluded ← option (rules.wildcardExclude && like.layout.isEmpty) "EXCLUDE" do
    return .text (" EXCLUDE " ++ (← oneOrMany do return (← identifier).render))
  let excepted ← option rules.wildcardExcept "EXCEPT" do return .text (← excepted)
  let replaced ← option rules.wildcardReplace "REPLACE" (replaced g)
  let renamed ← option rules.wildcardRename "RENAME" do
    return .text (" RENAME " ++ (← oneOrMany renamedColumn))
  return like ++ excluded ++ excepted ++ replaced ++ renamed

/-- Whether a name would be taken for the start of the next clause. -/
def isFrom (i : Ident) : Bool := i.quote.isNone && Text.raised i.text == "FROM"

/-- An item to select, with its new name. -/
def item (g : Grammar) : Read Phrase := do
  let e ← CallReader.wildcardOr g
  let renamed (e : Expr) : Read Phrase := do
    return .expr e ++ showAlias (← columnAlias)
  match e with
  | .wildcard [] => return .text "*" ++ (← wildcardOptions g)
  | .wildcard name => return .text (renderName name ++ ".*") ++ (← wildcardOptions g)
  | .identifier i =>
    if isFrom i then failHere ("Expected an expression, found: " ++ i.text)
    renamed e
  | .binary (.identifier name) (.other "=") right =>
    if ← allows Rules.equalsAlias then return .expr right ++ .text (" AS " ++ name.render)
    renamed e
  | _ =>
    if (← allows Rules.expressionStar) && (← isSymbol ".") && (← isSymbolAt 1 "*") then
      skip; skip
      return .expr e ++ .text ".*" ++ (← wildcardOptions g)
    renamed e

/-- Whether a list of items has ended, although a comma stands before the next token. -/
def endsItems : Read Bool := do
  match ← peek 0 with
  | none => return true
  | some (.word w) => return w.keyword ≠ "" && reservedColumnAliases.contains w.keyword
  | some (.symbol s) => return [")", ";", "]", "\x7d"].contains s
  | _ => return false

/-- The items to select. Some dialects take a comma behind the last one. -/
def items (g : Grammar) : Read (List Phrase) := do
  let trailing ← allows Rules.trailingCommas
  let first ← item g
  let others ← many do
    unless ← symbol "," do return none
    if ← only trailing endsItems then return none
    return some (← item g)
  return first :: others

/-- A column or several in parentheses, and the value that they are given. -/
def assignment (g : Grammar) : Read Phrase := do
  let target ← do
    if ← isSymbol "(" then
      let names ← inParens (commaSeparated objectName)
      pure ("(" ++ ", ".intercalate (names.map renderName) ++ ")")
    else pure (renderName (← objectName))
  expectSymbol "="
  return .text (target ++ " = ") ++ .expr (← g.anyExpr)

/-- `DISTINCT` and what it ranges over. -/
def distinct (g : Grammar) : Read Phrase := do
  let here ← rest
  let all ← keyword "ALL"
  if ← keyword "DISTINCT" then
    if all then failAt "Cannot specify both ALL and DISTINCT" here
    if ← keyword "ON" then
      let columns ← inParens (commaSeparated0 g.anyExpr ")")
      return .text " DISTINCT ON (" ++ .list columns ++ .text ")"
    return .text " DISTINCT"
  return .empty

/-- How many rows to take. -/
def top (g : Grammar) : Read Phrase := do
  if ← keyword "TOP" then
    let amount ← do
      if ← symbol "(" then
        let e ← g.anyExpr
        expectSymbol ")"
        pure (Phrase.text "(" ++ .expr e ++ .text ")")
      else pure (Phrase.text (toString (← unsigned)))
    let percent := if ← keyword "PERCENT" then " PERCENT" else ""
    let ties := if ← keywords ["WITH", "TIES"] then " WITH TIES" else ""
    return .text " TOP " ++ amount ++ .text (percent ++ ties)
  return .empty

/-- A table that takes the result. -/
def into : Read String := do
  if ← keyword "INTO" then
    let temporary := if (← oneOf ["TEMP", "TEMPORARY"]).isSome then " TEMPORARY" else ""
    let unlogged ← keyword "UNLOGGED"
    let table ← keyword "TABLE"
    let name ← objectName
    return " INTO" ++ temporary ++ (if unlogged then " UNLOGGED" else "") ++
      (if table then " TABLE" else "") ++ " " ++ renderName name
  return ""

/-! ### Grouping -/

/-- Expressions in parentheses, or one without them unless the parentheses are `required`. -/
def columnSet (g : Grammar) (required : Bool) : Read (List Expr) := do
  if required || (← isSymbol "(") then inParens (commaSeparated0 g.anyExpr ")")
  else return [← g.anyExpr]

/-- A set of columns; one alone is shown without parentheses if it is `lifted`. -/
def showSet (lifted : Bool) : List Expr → Phrase
  | [e] => if lifted then .expr e else .inParens (.expr e)
  | es => .inParens (.list es)

/-- Sets of columns in parentheses. -/
def columnSets (g : Grammar) (words : String) (required lifted : Bool) : Read Phrase := do
  let sets ← inParens (commaSeparated (columnSet g required))
  return .text (words ++ " ") ++ .inParens (.commas (sets.map (showSet lifted)))

/-- An item to group by. -/
def groupItem (g : Grammar) : Read Phrase := do
  if ← allows Rules.groupingSets then
    if ← keywords ["GROUPING", "SETS"] then columnSets g "GROUPING SETS" true false
    else if ← keyword "CUBE" then columnSets g "CUBE" false true
    else if ← keyword "ROLLUP" then columnSets g "ROLLUP" false true
    else if (← isSymbol "(") && (← isSymbolAt 1 ")") then
      skip; skip
      return .text "()"
    else return .expr (← g.anyExpr)
  else return .expr (← g.anyExpr)

/-- The modifiers behind the items to group by. -/
def groupModifiers (g : Grammar) : Read Phrase := do
  let modified ← allows Rules.groupModifiers
  let found ← many do
    if ← only modified (keyword "WITH") then
      return some (" WITH " ++ (← expectOneOf ["ROLLUP", "CUBE", "TOTALS"]))
    return none
  let sets ← do
    if ← keywords ["GROUPING", "SETS"] then columnSets g " GROUPING SETS" false false
    else pure .empty
  return .text ("".intercalate found) ++ sets

/-- The items to group by. -/
def groupBy (g : Grammar) : Read Phrase := do
  if ← keywords ["GROUP", "BY"] then
    if ← keyword "ALL" then return .text " GROUP BY ALL" ++ (← groupModifiers g)
    let items ← commaSeparated (groupItem g)
    return .text " GROUP BY " ++ .commas items ++ (← groupModifiers g)
  return .empty

/-! ### Other clauses -/

/-- A table made by a function from each row. -/
def lateralView (g : Grammar) : Read (Option Phrase) := do
  if ← keywords ["LATERAL", "VIEW"] then
    let outer := if ← keyword "OUTER" then " OUTER" else ""
    let e ← g.anyExpr
    let name ← objectName
    let columns ← commaSeparated (aliasUnless ["WHERE", "GROUP", "CLUSTER", "HAVING", "LATERAL"])
    let shown := ", ".intercalate (columns.filterMap id |>.map Ident.render)
    return some (.text (" LATERAL VIEW" ++ outer ++ " ") ++ .expr e ++
      .text (" " ++ renderName name ++ if shown == "" then "" else " AS " ++ shown))
  return none

/-- A window with a name. -/
def namedWindow (g : Grammar) : Read Phrase := do
  let name ← identifier
  expectKeyword "AS"
  if ← symbol "(" then
    let spec ← CallReader.windowSpec g (FormReader.interval g)
    return .text (name.render ++ " AS (") ++ spec ++ .text ")"
  if ← allows Rules.windowReferences then
    return .text (name.render ++ " AS " ++ (← identifier).render)
  expected "("

/-- An optional clause that is one expression. -/
def exprClause (g : Grammar) (key : String) : Read Phrase := do
  if ← keyword key then return .text (" " ++ key ++ " ") ++ .expr (← g.anyExpr)
  return .empty

/-- An optional clause that is a list of expressions. -/
def listClause (g : Grammar) (k l : String) : Read Phrase := do
  if ← keywords [k, l] then return .text (" " ++ k ++ " " ++ l ++ " ") ++ .list (← g.exprs)
  return .empty

/-- Windows with names. -/
def windows (g : Grammar) : Read Phrase := do
  if ← keyword "WINDOW" then
    return .text " WINDOW " ++ .commas (← commaSeparated (namedWindow g))
  return .empty

/-- `WINDOW` and `QUALIFY` in either order. A walk comes to the windows first. -/
def windowsAndQualify (g : Grammar) : Read Phrase := do
  if ← isKeyword "QUALIFY" then
    let condition ← exprClause g "QUALIFY"
    return .ranked [(1, condition), (0, ← windows g)]
  let named ← windows g
  if named.layout.isEmpty then return named
  return named ++ (← exprClause g "QUALIFY")

/-- A walk along a hierarchy, from the rows that satisfy a first condition. -/
def connectBy (g : Grammar) : Read Phrase := do
  unless ← allows Rules.connectBy do return .empty
  let connect : Read Phrase := do
    expectKeywords ["CONNECT", "BY"]
    return .text " CONNECT BY " ++ .list (← within .hierarchy g.exprs)
  let start : Read Phrase := do
    expectKeywords ["START", "WITH"]
    return .text " START WITH " ++ .expr (← g.anyExpr)
  match ← keywordAt 0 with
  | "START" =>
    let s ← start
    return s ++ (← connect)
  | "CONNECT" =>
    if (← keywordAt 1) == "BY" then
      let c ← connect
      return (← start) ++ c
    else start
  | _ => return .empty

/-! ### The whole -/

/-- A `SELECT` behind the tables that may stand in front of it. -/
def selectFrom (g : Grammar) (early : Option Phrase) : Read Phrase := do
  let rules ← rules
  expectKeyword "SELECT"
  let unique ← distinct g
  let top ← top g
  let chosen ← do
    if rules.emptySelection && (← isKeyword "FROM") then pure [] else items g
  let target ← into
  let tables ← do
    match early with
    | some p => pure (Phrase.text "FROM " ++ p ++ .text " ")
    | none => if ← keyword "FROM" then pure (Phrase.text " FROM " ++ (← tables g)) else pure .empty
  let views ← many (lateralView g)
  let prewhere ← if rules.prewhere then exprClause g "PREWHERE" else pure .empty
  let condition ← exprClause g "WHERE"
  let groups ← groupBy g
  let cluster ← listClause g "CLUSTER" "BY"
  let distribute ← listClause g "DISTRIBUTE" "BY"
  let sort ← do
    if ← keywords ["SORT", "BY"] then pure (Phrase.text " SORT BY " ++ (← CallReader.orderItems g))
    else pure .empty
  let having ← exprClause g "HAVING"
  let windows ← windowsAndQualify g
  let hierarchy ← connectBy g
  let clauses := Phrase.concat
    [.concat views, prewhere, condition, groups, cluster, distribute, sort, having, windows]
  return Selection.phrase
    { early := if early.isSome then tables else .empty
      amount := unique ++ top
      items := chosen
      target
      tables := if early.isSome then .empty else tables
      clauses := clauses ++ hierarchy }

/-- A `SELECT`, whose tables may stand in front of it. -/
def select (g : Grammar) : Read Phrase := do
  if ← only (← allows Rules.fromFirst) (keyword "FROM") then
    let found ← tables g
    if ← isKeyword "SELECT" then selectFrom g (some found)
    else return .text "FROM " ++ found
  else selectFrom g none

end TableFeed.Sql.QueryReader
