import TableFeed.Sql.Parser.Operators

/-!
# Calls

The arguments of a call, what may follow them, and the windows that a call may range over.
-/

namespace TableFeed.Sql.CallReader

open Read

/-! ### Order -/

/-- `ASC`, `DESC` and the place of nulls. -/
def orderOptions : Read String := do
  let direction ← oneOf ["ASC", "DESC"]
  let nulls ← do
    if ← keywords ["NULLS", "FIRST"] then pure " NULLS FIRST"
    else if ← keywords ["NULLS", "LAST"] then pure " NULLS LAST"
    else pure ""
  return (match direction with
    | some d => " " ++ d
    | none => "") ++ nulls

/-- `WITH FILL` and its bounds. -/
def withFill (g : Grammar) : Read Phrase := do
  if ← both (allows Rules.settings) (keywords ["WITH", "FILL"]) then
    let bound (k : String) : Read Phrase := do
      return .optional (" " ++ k ++ " ") ((← whenTaken (keyword k) g.anyExpr).map .expr)
    let start ← bound "FROM"
    let stop ← bound "TO"
    let step ← bound "STEP"
    return .text " WITH FILL" ++ start ++ stop ++ step
  return .empty

/-- An expression to sort by. -/
def orderItem (g : Grammar) : Read Phrase := do
  let e ← g.anyExpr
  let options ← orderOptions
  return .expr e ++ .text options ++ (← withFill g)

/-- Expressions to sort by. -/
def orderItems (g : Grammar) : Read Phrase := do
  return .commas (← commaSeparated (orderItem g))

/-! ### Windows -/

/-- One end of a window frame. -/
def frameBound (g : Grammar) (interval : Read Expr) : Read Phrase := do
  if ← keywords ["CURRENT", "ROW"] then return .text "CURRENT ROW"
  let distance ← do
    if ← keyword "UNBOUNDED" then pure (Phrase.text "UNBOUNDED")
    else match ← peek 0 with
      | some (.quoted .single _) => pure (Phrase.expr (← interval))
      | _ => pure (Phrase.expr (← g.anyExpr))
  match ← oneOf ["PRECEDING", "FOLLOWING"] with
  | some side => return distance ++ .text (" " ++ side)
  | none => expected "PRECEDING or FOLLOWING"

/-- The frame of a window. -/
def frame (g : Grammar) (interval : Read Expr) : Read Phrase := do
  match ← oneOf ["ROWS", "RANGE", "GROUPS"] with
  | none => expected "ROWS, RANGE, GROUPS"
  | some units =>
    if ← keyword "BETWEEN" then
      let start ← frameBound g interval
      expectKeyword "AND"
      let stop ← frameBound g interval
      return .text (units ++ " BETWEEN ") ++ start ++ .text " AND " ++ stop
    return .text (units ++ " ") ++ (← frameBound g interval)

/-- A window behind its opening parenthesis. -/
def windowSpec (g : Grammar) (interval : Read Expr) : Read Phrase := do
  let name ← do
    match ← peek 0 with
    | some (.word w) => if Keyword.isReserved w then pure none else identifier?
    | _ => pure none
  let partition ← whenTaken (keywords ["PARTITION", "BY"]) g.exprs
  let order ← whenTaken (keywords ["ORDER", "BY"]) (orderItems g)
  let bounds ← do
    if ← symbol ")" then pure none
    else
      let f ← frame g interval
      expectSymbol ")"
      pure (some f)
  let pieces := (name.map fun n => Phrase.text n.render).toList ++
    (partition.map fun es => Phrase.text "PARTITION BY " ++ .list es).toList ++
    (order.map fun p => Phrase.text "ORDER BY " ++ p).toList ++ bounds.toList
  return .sepBy " " pieces

/-! ### Arguments -/

/-- How nulls are treated. -/
def nullTreatment : Read (Option String) := do
  match ← oneOf ["RESPECT", "IGNORE"] with
  | some k =>
    expectKeyword "NULLS"
    return some (k ++ " NULLS")
  | none => return none

/-- The sign between the name of an argument and its value. -/
def argumentSign : Read String := do
  if ← keyword "VALUE" then return "VALUE"
  let rules ← rules
  match ← peek 0 with
  | some (.symbol s) =>
    if (s == "=>" && rules.namedWithArrow) || (s == "=" && rules.namedWithEquals) ||
      (s == ":=" && rules.namedWithAssignment) || (s == ":" && rules.namedWithColon) then
      skip
      return s
    else expected "argument operator"
  | _ => expected "argument operator"

/-- An expression, or `*`, or `a.b.*`. -/
def wildcardOr (g : Grammar) : Read Expr := do
  let here ← rest
  match ← peek 0 with
  | some t =>
    let start := match t with
      | .word _ | .quoted .single _ => identOf t
      | _ => none
    match start with
    | some first =>
      if ← isSymbolAt 1 "." then
        skip
        let (parts, found) ← iterate ([first], false) fun (parts, found) => do
          if found then return none
          if ← symbol "." then
            match ← peek 0 with
            | some (.word w) => do skip; return some ({ text := w.text, quote := w.quote } :: parts, false)
            | some (.quoted .single s) => do
              skip
              return some ({ text := s, quote := some '\'' } :: parts, false)
            | some (.placeholder s) => do skip; return some ({ text := s } :: parts, false)
            | some (.symbol "*") => do skip; return some (parts, true)
            | _ => expected "an identifier or a '*' after '.'"
          return none
        if found then return .wildcard parts.reverse
        goTo here
    | none =>
      match t with
      | .symbol "*" =>
        skip
        return .wildcard []
      | _ => pure ()
  | none => pure ()
  g.anyExpr

/-- One argument of a call. -/
def argument (g : Grammar) : Read Phrase := do
  let named ← attempt do
    let name ← do
      if ← allows Rules.namedByExpr then pure (Phrase.expr (← g.anyExpr))
      else pure (Phrase.text (← identifier).render)
    let sign ← argumentSign
    let value ← wildcardOr g
    return name ++ .text (" " ++ sign ++ " ") ++ .expr value
  match named with
  | some p => return p
  | none => return .expr (← wildcardOr g)

/-- A clause about nulls of the JSON functions. -/
def jsonNulls : Read (List Phrase) := do
  if ← keywords ["ABSENT", "ON", "NULL"] then return [.text "ABSENT ON NULL"]
  if ← keywords ["NULL", "ON", "NULL"] then return [.text "NULL ON NULL"]
  return []

/-- The type that a JSON function returns. -/
def jsonReturning (g : Grammar) : Read (List Phrase) := do
  if ← keyword "RETURNING" then return [.text "RETURNING " ++ (← g.fullType).phrase]
  return []

/-- A phrase behind a keyword, if the keyword comes next. -/
def clause (key : String) (p : Read Phrase) : Read (List Phrase) := do
  if ← keyword key then return [.text (key ++ " ") ++ (← p)]
  return []

/-- What `LISTAGG` does with a result that is too long. -/
def onOverflow (g : Grammar) : Read (List Phrase) := do
  if ← keywords ["ON", "OVERFLOW"] then
    if ← keyword "ERROR" then return [.text "ON OVERFLOW ERROR"]
    expectKeyword "TRUNCATE"
    let filler ← do
      match ← peek 0 with
      | some (.quoted q _) =>
        if [Quoting.single, .escaped, .unicode, .national, .hex].contains q then
          pure (Phrase.text " " ++ .expr (← g.anyExpr))
        else expected "either filler, WITH, or WITHOUT in LISTAGG"
      | some (.word w) =>
        if ["WITH", "WITHOUT"].contains w.keyword then pure Phrase.empty
        else expected "either filler, WITH, or WITHOUT in LISTAGG"
      | _ => expected "either filler, WITH, or WITHOUT in LISTAGG"
    let count ← keyword "WITH"
    unless ← either (return count) (keyword "WITHOUT") do
      expected "either WITH or WITHOUT in LISTAGG"
    expectKeyword "COUNT"
    return [.text "ON OVERFLOW TRUNCATE" ++ filler ++
      .text (if count then " WITH COUNT" else " WITHOUT COUNT")]
  return []

/-- Whether the arguments of a call are taken once each, or all of them. -/
def multiplicity : Read String := do
  let here ← rest
  let all ← keyword "ALL"
  let distinct ← keyword "DISTINCT"
  if all && distinct then failAt "Cannot specify both ALL and DISTINCT" here
  return if all then "ALL " else if distinct then "DISTINCT " else ""

/-- The arguments of a call behind the opening parenthesis, and whether they say how nulls are
treated. -/
def arguments (g : Grammar) : Read (Phrase × Bool) := do
  let nulls ← jsonNulls
  let returning ← jsonReturning g
  if ← symbol ")" then return (.sepBy " " (nulls ++ returning), false)
  let lead ← multiplicity
  let args ← commaSeparated (argument g)
  let rules ← rules
  let treatment ← if rules.nullTreatmentArgument then nullTreatment else pure none
  let order ← do
    if ← keywords ["ORDER", "BY"] then pure [Phrase.text "ORDER BY " ++ (← orderItems g)]
    else pure []
  let limit ← clause "LIMIT" do return .expr (← g.anyExpr)
  let having ← do
    if rules.havingArgument then
      clause "HAVING" do
        let bound ← expectOneOf ["MIN", "MAX"]
        return .text (bound ++ " ") ++ .expr (← g.anyExpr)
    else pure []
  let separator ← do
    if rules.separatorArgument then clause "SEPARATOR" do return .text (← value).render
    else pure []
  let overflow ← onOverflow g
  let nullsAfter ← jsonNulls
  let returningAfter ← jsonReturning g
  expectSymbol ")"
  let clauses := nulls ++ returning ++ (treatment.map Phrase.text).toList ++ order ++ limit ++
    having ++ separator ++ overflow ++ nullsAfter ++ returningAfter
  let tail := if clauses.isEmpty then Phrase.empty else .text " " ++ .sepBy " " clauses
  return (.text lead ++ .commas args ++ tail, treatment.isSome)

/-- The condition of an aggregate. A keyword that is not followed by what belongs to it is
dropped. -/
def filter (g : Grammar) : Read Phrase := do
  if ← both (both (allows Rules.filter) (keyword "FILTER")) (both (symbol "(") (keyword "WHERE")) then
    let condition ← g.anyExpr
    expectSymbol ")"
    return .text " FILTER (WHERE " ++ .expr condition ++ .text ")"
  return .empty

/-- The window of a call. -/
def overWindow (g : Grammar) (interval : Read Expr) : Read Phrase := do
  if ← keyword "OVER" then
    if ← symbol "(" then
      return .text " OVER (" ++ (← windowSpec g interval) ++ .text ")"
    return .text (" OVER " ++ (← identifier).render)
  return .empty

/-- A call of `name`, read behind the name. A walk comes to the order within a group after the
window, although it is shown right behind the arguments. -/
def call (g : Grammar) (interval : Read Expr) (name : List Ident) : Read Expr := do
  expectSymbol "("
  let (first, firstNulls) ← arguments g
  let (args, nullsGiven) ← do
    if ← both (allows Rules.callParameters) (symbol "(") then
      let (second, secondNulls) ← arguments g
      pure (Phrase.text "(" ++ first ++ .text ")(" ++ second ++ .text ")", secondNulls)
    else pure (Phrase.text "(" ++ first ++ .text ")", firstNulls)
  let order ← do
    if ← keywords ["WITHIN", "GROUP"] then
      expectSymbol "("
      expectKeywords ["ORDER", "BY"]
      let items ← orderItems g
      expectSymbol ")"
      pure (Phrase.text " WITHIN GROUP (ORDER BY " ++ items ++ .text ")")
    else pure .empty
  let condition ← filter g
  let nulls ← if nullsGiven then pure none else nullTreatment
  let window ← overWindow g interval
  let p := Phrase.ranked [(0, args), (3, order), (1, condition),
    (1, .text ((nulls.map (" " ++ ·)).getD "")), (2, window)]
  return .form (.call name) p.layout p.parts

end TableFeed.Sql.CallReader
