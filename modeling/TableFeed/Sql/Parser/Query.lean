import TableFeed.Sql.Parser.Pipe

/-!
# Queries

A query is a body between the queries that it names beforehand and the clauses that order and
limit it. A body is a `SELECT`, rows of values, a table, a query in parentheses, or several of
these connected by set operations, of which `INTERSECT` binds tighter than the others. In the
place of a body a statement that changes rows may stand too; then nothing follows it.
-/

namespace TableFeed.Sql.QueryReader

open Read RenameReader FromReader

/-! ### Bodies -/

/-- A table as a body. Three tokens are taken in any case, although a name without a schema is
only one of them. -/
def wholeTable : Read Phrase := do
  let here ← rest
  let first ← next
  let dot ← next
  let last ← next
  let text (t : Option Token) : Option String := match t with
    | some (.word w) => some w.text
    | _ => none
  match dot with
  | some (.symbol ".") =>
    match text first, text last with
    | none, _ => expectedAt "Schema name" here
    | _, none => expectedAt "Table name" (here.drop 2)
    | some s, some t => return .text ("TABLE " ++ s ++ "." ++ t)
  | _ =>
    match text first with
    | none => expectedAt "Table name" here
    | some t => return .text ("TABLE " ++ t)

/-- A body without set operations. -/
def simpleBody (g : Grammar) : Read QueryBody := do
  if (← isKeyword "SELECT") || ((← isKeyword "FROM") && (← allows Rules.fromFirst)) then
    return .other (← select g)
  if ← symbol "(" then
    let q ← g.query
    expectSymbol ")"
    return .other (.inParens q.phrase)
  if let some word ← oneOf ["VALUES", "VALUE"] then
    return .values (← rows g word (← allows Rules.emptyLists))
  if ← keyword "TABLE" then return .other (← wholeTable)
  expected "SELECT, VALUES, or a subquery in the query body"

/-- A body with the set operations that bind tighter than `precedence`. -/
def body (g : Grammar) (precedence : Nat) : Read QueryBody := do
  let first ← simpleBody g
  iterate first fun left => do
    let key ← keywordAt 0
    let binds := match key with
      | "UNION" | "EXCEPT" | "MINUS" => 10
      | "INTERSECT" => 20
      | _ => 0
    if precedence ≥ binds then return none
    skip
    let words := " " ++ key ++ (← PipeReader.quantifier) ++ " "
    let right ← g.body binds
    return some (.other (left.phrase ++ .text words ++ right.phrase))

/-! ### Named queries -/

/-- A query that is named beforehand. -/
def commonTable (g : Grammar) : Read Phrase := do
  let name ← identifier
  let columns ← if ← isKeyword "AS" then pure .empty else aliasColumns g
  expectKeyword "AS"
  let materialized ← do
    if ← allows Rules.materializedTables then firstOf [["MATERIALIZED"], ["NOT", "MATERIALIZED"]]
    else pure none
  let q ← g.subquery
  let origin ← whenTaken (keyword "FROM") identifier
  let words := (materialized.map fun ks => " " ++ " ".intercalate ks).getD ""
  return .text name.render ++ columns ++ .text (" AS" ++ words ++ " ") ++ .inParens q.phrase ++
    .text ((origin.map fun i => " FROM " ++ i.render).getD "")

/-- The queries that are named beforehand. -/
def withClause (g : Grammar) : Read Phrase := do
  if ← keyword "WITH" then
    let recursive := if ← keyword "RECURSIVE" then "RECURSIVE " else ""
    let tables ← commaSeparated (commonTable g)
    return .text ("WITH " ++ recursive) ++ .commas tables ++ .text " "
  return .empty

/-! ### Order and limits -/

/-- Values for the rows that an order fills in. -/
def interpolation (g : Grammar) : Read Phrase := do
  unless ← only (← allows Rules.settings) (keyword "INTERPOLATE") do return .empty
  let one : Read Phrase := do
    let column ← identifier
    let e ← whenTaken (keyword "AS") g.anyExpr
    return .text column.render ++ .optional " AS " (e.map .expr)
  if ← isSymbol "(" then
    let found ← inParens (commaSeparated0 one ")")
    return .text " INTERPOLATE " ++ .inParens (.commas found)
  return .text " INTERPOLATE"

/-- The order of the rows. -/
def orderBy (g : Grammar) : Read Phrase := do
  if ← keywords ["ORDER", "BY"] then
    if ← only (← allows Rules.orderByAll) (keyword "ALL") then
      return .text (" ORDER BY ALL" ++ (← CallReader.orderOptions))
    let items ← CallReader.orderItems g
    return .text " ORDER BY " ++ items ++ (← interpolation g)
  return .empty

/-- The number of rows to leave out, behind `OFFSET`. -/
def offset (g : Grammar) : Read Phrase := do
  let e ← g.anyExpr
  let unit ← oneOf ["ROW", "ROWS"]
  return .text " OFFSET " ++ .expr e ++ .text ((unit.map (" " ++ ·)).getD "")

/-- The number of rows to give. A number to leave out may stand before it or behind it. -/
def limit (g : Grammar) : Read Phrase := do
  let early ← whenTaken (keyword "OFFSET") (offset g)
  unless ← keyword "LIMIT" do return early.getD .empty
  let amount ← if ← keyword "ALL" then pure none else pure (some (← g.anyExpr))
  let comma ← allows Rules.limitComma
  if let some first := amount then
    if ← only (comma && early.isNone) (symbol ",") then
      return .text " LIMIT " ++ .expr first ++ .text ", " ++ .expr (← g.anyExpr)
  let groups ← do
    if ← only (← allows Rules.settings) (keyword "BY") then
      pure (Phrase.text " BY " ++ .list (← g.exprs))
    else pure .empty
  let skipped ← do
    match early with
    | some o => pure o
    | none => if ← keyword "OFFSET" then offset g else pure .empty
  return .optional " LIMIT " (amount.map .expr) ++ skipped ++ groups

/-- The number of rows to give, in the words of the standard. -/
def fetch : Read Phrase := do
  if ← keyword "FETCH" then
    let _ ← oneOf ["FIRST", "NEXT"]
    let amount ← do
      if (← oneOf ["ROW", "ROWS"]).isSome then pure Phrase.empty
      else
        let v ← value
        let percent := if ← keyword "PERCENT" then " PERCENT" else ""
        let _ ← oneOf ["ROW", "ROWS"]
        pure (.text " " ++ .expr (.literal v) ++ .text percent)
    let ties ← if ← keyword "ONLY" then pure false else keywords ["WITH", "TIES"]
    return .text " FETCH FIRST" ++ amount ++ .text (if ties then " ROWS WITH TIES" else " ROWS ONLY")
  return .empty

/-! ### Locks and forms of the result -/

/-- A text in parentheses behind a word, if a parenthesis comes next. -/
def elementName : Read String := do
  if ← isSymbol "(" then return "('" ++ (← inParens literalString) ++ "')"
  return ""

/-- An option of the form of a result. An unknown one is passed over. -/
def formOption (plain : List (List String)) : Read String := do
  if ← keyword "ROOT" then return ", ROOT('" ++ (← inParens literalString) ++ "')"
  match ← firstOf plain with
  | some ["BINARY"] =>
    expectKeyword "BASE64"
    return ", BINARY BASE64"
  | some ks => return ", " ++ " ".intercalate ks
  | none => return ""

/-- The form in which a query gives its result, behind `FOR`, if one comes next. -/
def resultForm : Read (Option String) := do
  let options (plain : List (List String)) : Read String := do
    return "".intercalate (← many (whenTaken (symbol ",") (formOption plain)))
  if ← keyword "XML" then
    let kind ← do
      match ← oneOf ["RAW", "AUTO", "EXPLICIT", "PATH"] with
      | some "AUTO" => pure "AUTO"
      | some "EXPLICIT" => pure "EXPLICIT"
      | some k => pure (k ++ (← elementName))
      | none => throw (.message "Expected FOR XML [RAW | AUTO | EXPLICIT | PATH ]" none)
    return some (" FOR XML " ++ kind ++ (← options [["ELEMENTS"], ["BINARY"], ["TYPE"]]))
  if ← keyword "JSON" then
    match ← oneOf ["AUTO", "PATH"] with
    | some k =>
      return some (" FOR JSON " ++ k ++
        (← options [["INCLUDE_NULL_VALUES"], ["WITHOUT_ARRAY_WRAPPER"]]))
    | none => throw (.message "Expected FOR JSON [AUTO | PATH ]" none)
  if ← keyword "BROWSE" then return some " FOR BROWSE"
  return none

/-- A lock that a query takes, behind `FOR`. -/
def lock : Read String := do
  let kind ← expectOneOf ["UPDATE", "SHARE"]
  let table ← whenTaken (keyword "OF") objectName
  let wait := ((← firstOf [["NOWAIT"], ["SKIP", "LOCKED"]]).map fun ks =>
    " " ++ " ".intercalate ks).getD ""
  return " FOR " ++ kind ++ ((table.map fun t => " OF " ++ renderName t).getD "") ++ wait

/-- The locks that a query takes, up to the form of its result. -/
def locks : Read String := do
  let (found, _) ← iterate ([], false) fun (found, finished) => do
    if finished then return none
    unless ← keyword "FOR" do return none
    match ← resultForm with
    | some shown => return some (shown :: found, true)
    | none => return some ((← lock) :: found, false)
  return "".intercalate found.reverse

/-- The format of the result. -/
def format : Read String := do
  if ← only (← allows Rules.resultFormats) (keyword "FORMAT") then
    if ← keyword "NULL" then return " FORMAT NULL"
    return " FORMAT " ++ (← identifier).render
  return ""

/-! ### The whole -/

/-- A query. A walk comes to its limits before its settings. -/
def query (g : Grammar) : Read Query := nest do
  let before ← withClause g
  let key ← keywordAt 0
  if ["INSERT", "UPDATE", "DELETE", "MERGE"].contains key then
    return { before, body := .other (← g.modifying) }
  let body ← g.body 0
  let order ← orderBy g
  let limit ← limit g
  let settings ← settings g
  let fetch ← fetch
  let locks ← locks
  let format ← format
  let steps ← PipeReader.steps g
  let after := Phrase.ranked [(0, order ++ limit), (2, .optional " " settings), (1, fetch),
    (3, .text (locks ++ format) ++ steps)]
  return { before, body, after }

end TableFeed.Sql.QueryReader
