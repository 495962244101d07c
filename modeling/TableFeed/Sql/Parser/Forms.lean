import TableFeed.Sql.Parser.Call
import TableFeed.Sql.Parser.DataType

/-!
# Forms that begin with a keyword

`CASE`, `CAST`, `EXTRACT`, `TRIM` and the other forms whose parts are set off by keywords. Each
is read behind its keyword. Where such a form cannot be read, its keyword may still be a name,
except for the few that `reservedNames` lists.
-/

namespace TableFeed.Sql.FormReader

open Read

/-- The keywords that are no names even where their form cannot be read. -/
def reservedNames : List String := ["EXISTS", "INTERVAL", "STRUCT", "TRIM"]

/-! ### Intervals -/

/-- The units of an interval. -/
def temporalUnits : List String :=
  ["YEAR", "YEARS", "MONTH", "MONTHS", "WEEK", "WEEKS", "DAY", "DAYS", "HOUR", "HOURS", "MINUTE",
    "MINUTES", "SECOND", "SECONDS", "CENTURY", "DECADE", "DOW", "DOY", "EPOCH", "ISODOW",
    "ISOYEAR", "JULIAN", "MICROSECOND", "MICROSECONDS", "MILLENIUM", "MILLENNIUM", "MILLISECOND",
    "MILLISECONDS", "NANOSECOND", "NANOSECONDS", "QUARTER", "TIMEZONE", "TIMEZONE_HOUR",
    "TIMEZONE_MINUTE"]

/-- The fields of a point in time. -/
def dateTimeFields : List String :=
  temporalUnits ++ ["DAYOFWEEK", "DAYOFYEAR", "DATE", "DATETIME", "ISOWEEK", "TIME", "TIMEZONE_ABBR",
    "TIMEZONE_REGION"]

/-- A field of a point in time. -/
def dateTimeField : Read String := do
  match ← peek 0 with
  | some (.word w) =>
    if dateTimeFields.contains w.keyword then
      skip
      if ← only (w.keyword == "WEEK" && (← allows Rules.weekDays)) (symbol "(") then
        let day ← identifier
        expectSymbol ")"
        return "WEEK(" ++ day.render ++ ")"
      return w.keyword
    else if ← allows Rules.anyDateField then return (← identifier).render
    else refuse "date/time field"
  | some (.quoted .single s) =>
    if ← allows Rules.quotedDateField then
      skip
      return quotedText s
    else refuse "date/time field"
  | _ => refuse "date/time field"

/-- A precision and an optional second one. -/
def precisions : Read (Option Nat × Option Nat) := do
  if ← symbol "(" then
    let first ← unsigned
    let second ← whenTaken (symbol ",") unsigned
    expectSymbol ")"
    return (some first, second)
  return (none, none)

/-- The smaller unit up to which an interval reaches. -/
def intervalEnd (start : Phrase) : Read Expr := do
  if ← keyword "TO" then
    let last ← dateTimeField
    let n ← if last == "SECOND" then length? else pure none
    let shown := match n with
      | some n => " (" ++ toString n ++ ")"
      | none => ""
    return Phrase.form (start ++ .text (" TO " ++ last ++ shown))
  return Phrase.form start

/-- An interval. -/
def interval (g : Grammar) : Read Expr := do
  let qualified ← allows Rules.intervalUnit
  let amount ← if qualified then g.anyExpr else g.primary
  let isUnit := temporalUnits.contains (← keywordAt 0)
  let start := Phrase.text "INTERVAL " ++ .expr amount
  let precise (n : Option Nat) : Phrase := .text <| match n with
    | some n => " (" ++ toString n ++ ")"
    | none => ""
  if isUnit then
    let unit ← dateTimeField
    if unit == "SECOND" then
      match ← precisions with
      | (some a, some b) =>
        return Phrase.form (start ++ .text (" SECOND (" ++ toString a ++ ", " ++ toString b ++ ")"))
      | (a, _) => return Phrase.form (start ++ .text " SECOND" ++ precise a)
    else intervalEnd (start ++ .text (" " ++ unit) ++ precise (← length?))
  else if qualified then failHere "INTERVAL requires a unit after the literal value"
  else intervalEnd (start ++ precise (← length?))

/-! ### Conditions and conversions -/

/-- One branch of a `CASE`. -/
def branch (g : Grammar) : Read Phrase := do
  let condition ← g.anyExpr
  expectKeyword "THEN"
  return .text " WHEN " ++ .expr condition ++ .text " THEN " ++ .expr (← g.anyExpr)

/-- `CASE` -/
def caseForm (g : Grammar) : Read Expr := do
  let operand ← do
    if ← keyword "WHEN" then pure Phrase.empty
    else
      let e ← g.anyExpr
      expectKeyword "WHEN"
      pure (Phrase.text " " ++ .expr e)
  let first ← branch g
  let others ← many (whenTaken (keyword "WHEN") (branch g))
  let otherwise ← whenTaken (keyword "ELSE") g.anyExpr
  expectKeyword "END"
  return Phrase.form (.text "CASE" ++ operand ++ .concat (first :: others) ++
    .optional " ELSE " (otherwise.map .expr) ++ .text " END")

/-- `CAST` and its variants; `name` is the one that is written. -/
def castForm (g : Grammar) (name : String) : Read Expr := do
  expectSymbol "("
  let e ← g.anyExpr
  expectKeyword "AS"
  let t ← g.fullType
  let format ← do
    if ← keyword "FORMAT" then
      let f ← value
      let zone ← whenTaken (keywords ["AT", "TIME", "ZONE"]) value
      pure (" FORMAT " ++ f.render ++ ((zone.map fun z => " AT TIME ZONE " ++ z.render).getD ""))
    else pure ""
  expectSymbol ")"
  return Phrase.form (.text (name ++ "(") ++ .expr e ++ .text " AS " ++ t.phrase ++
    .text (format ++ ")"))

/-- `CONVERT`. A walk comes to the value before the type. -/
def convertForm (g : Grammar) (name : String) : Read Expr := do
  expectSymbol "("
  if ← allows Rules.convertTypeFirst then
    let t ← g.fullType
    expectSymbol ","
    let e ← g.anyExpr
    let styles ← whenTaken (symbol ",") g.exprs
    expectSymbol ")"
    return Phrase.form (.ranked [(0, .text (name ++ "(")), (1, t.phrase ++ .text ", "),
      (0, .expr e), (2, .optional ", " (styles.map .list) ++ .text ")")])
  let e ← g.anyExpr
  if ← keyword "USING" then
    let charset ← objectName
    expectSymbol ")"
    return Phrase.form (.text (name ++ "(") ++ .expr e ++ .text (" USING " ++ renderName charset ++ ")"))
  expectSymbol ","
  let t ← g.fullType
  let charset ← whenTaken (keywords ["CHARACTER", "SET"]) objectName
  expectSymbol ")"
  let shown := match charset with
    | some c => " CHARACTER SET " ++ renderName c
    | none => ""
  return Phrase.form (.text (name ++ "(") ++ .expr e ++ .text ", " ++ t.phrase ++
    .text (shown ++ ")"))

/-- `EXISTS` -/
def existsForm (g : Grammar) (lead : String) : Read Expr := do
  let q ← g.subquery
  return Phrase.form (.text (lead ++ "EXISTS (") ++ q.phrase ++ .text ")")

/-- `NOT` -/
def notForm (g : Grammar) : Read Expr := do
  if ← keyword "EXISTS" then existsForm g "NOT "
  else return .unary .not (← g.expr (← level .not))

/-! ### Functions with keywords between their arguments -/

/-- `EXTRACT` -/
def extractForm (g : Grammar) : Read Expr := do
  expectSymbol "("
  let field ← dateTimeField
  let sep ← do
    if ← keyword "FROM" then pure " FROM "
    else if ← both (allows Rules.extractComma) (symbol ",") then pure ", "
    else throw (.message "Expected 'FROM' or ','" none)
  let e ← g.anyExpr
  expectSymbol ")"
  return Phrase.form (.text ("EXTRACT(" ++ field ++ sep) ++ .expr e ++ .text ")")

/-- `CEIL` and `FLOOR` -/
def roundForm (g : Grammar) (name : String) : Read Expr := do
  expectSymbol "("
  let e ← g.anyExpr
  let tail ← do
    if ← keyword "TO" then pure (" TO " ++ (← dateTimeField))
    else if ← symbol "," then
      match ← value with
      | .number digits long => pure (", " ++ (Literal.number digits long).render)
      | _ => throw (.message "Scale field can only be of number type" none)
    else pure ""
  expectSymbol ")"
  return Phrase.form (.text (name ++ "(") ++ .expr e ++ .text (tail ++ ")"))

/-- `POSITION` with `IN`. -/
def positionForm (g : Grammar) : Read Expr := do
  expectSymbol "("
  let e ← g.expr (← level .between)
  expectKeyword "IN"
  let whole ← g.anyExpr
  expectSymbol ")"
  return Phrase.form (.text "POSITION(" ++ .expr e ++ .text " IN " ++ .expr whole ++ .text ")")

/-- `SUBSTRING` -/
def substringForm (g : Grammar) (name : String) : Read Expr := do
  expectSymbol "("
  let e ← g.anyExpr
  let comma ← symbol ","
  let start ← whenTaken (do if comma then return true else keyword "FROM") g.anyExpr
  let count ← whenTaken (do if ← keyword "FOR" then return true else symbol ",") g.anyExpr
  expectSymbol ")"
  let sep (k : String) := if comma then ", " else k
  return Phrase.form (.text (name ++ "(") ++ .expr e ++ .optional (sep " FROM ") (start.map .expr) ++
    .optional (sep " FOR ") (count.map .expr) ++ .text ")")

/-- `OVERLAY` -/
def overlayForm (g : Grammar) : Read Expr := do
  expectSymbol "("
  let e ← g.anyExpr
  expectKeyword "PLACING"
  let what ← g.anyExpr
  expectKeyword "FROM"
  let start ← g.anyExpr
  let count ← whenTaken (keyword "FOR") g.anyExpr
  expectSymbol ")"
  return Phrase.form (.text "OVERLAY(" ++ .expr e ++ .text " PLACING " ++ .expr what ++ .text " FROM " ++
    .expr start ++ .optional " FOR " (count.map .expr) ++ .text ")")

/-- `TRIM`. With `FROM` a walk comes to the trimmed text before the characters to trim. -/
def trimForm (g : Grammar) : Read Expr := do
  expectSymbol "("
  let side ← oneOf ["BOTH", "LEADING", "TRAILING"]
  let lead := "TRIM(" ++ (side.map (· ++ " ")).getD ""
  let e ← g.anyExpr
  if ← keyword "FROM" then
    let whole ← g.anyExpr
    expectSymbol ")"
    return .form .plain [.text lead, .part 1, .text " FROM ", .part 0, .text ")"] [whole, e]
  if (← symbol ",") && (← allows Rules.trimCharacters) then
    let characters ← g.exprs
    expectSymbol ")"
    return Phrase.form (.text lead ++ .expr e ++ .text ", " ++ .list characters ++ .text ")")
  expectSymbol ")"
  return Phrase.form (.text lead ++ .expr e ++ .text ")")

/-- The ways in which a full text search may be done. -/
def searchModes : List (List String) :=
  [["IN", "NATURAL", "LANGUAGE", "MODE", "WITH", "QUERY", "EXPANSION"],
    ["IN", "NATURAL", "LANGUAGE", "MODE"], ["WITH", "QUERY", "EXPANSION"], ["IN", "BOOLEAN", "MODE"]]

/-- `MATCH … AGAINST` -/
def matchForm : Read Expr := do
  let columns ← columnList objectName false false
  expectKeyword "AGAINST"
  expectSymbol "("
  let text ← value
  let mode := ((← firstOf searchModes).map fun ks => " " ++ " ".intercalate ks).getD ""
  expectSymbol ")"
  return Phrase.form (Phrase.text ("MATCH (" ++ ", ".intercalate (columns.map renderName) ++ ") AGAINST (" ++
    text.render ++ mode ++ ")"))

/-! ### Collections -/

/-- An array behind its opening bracket. -/
def arrayForm (g : Grammar) (lead : String) : Read Expr := do
  let items ← commaSeparated0 g.anyExpr "]"
  expectSymbol "]"
  return Phrase.form (.text (lead ++ "[") ++ .list items ++ .text "]")

/-- A field of a structure. -/
def structItem (g : Grammar) (typed : Bool) : Read Expr := do
  let e ← g.anyExpr
  let here ← rest
  if ← keyword "AS" then
    if typed then failAt "Typed syntax does not allow AS" here
    let name ← identifier
    return Phrase.form (.expr e ++ .text (" AS " ++ name.render))
  return e

/-- A structure. A walk comes to its values before its fields. -/
def structForm (g : Grammar) : Read Expr := do
  let (fields, closed) ← TypeReader.structFields g
  if closed then failHere "unmatched > in STRUCT literal"
  let items ← inParens (commaSeparated (structItem g (!fields.isEmpty)))
  return Phrase.form (.ranked [(1, TypeReader.showStruct fields), (0, .inParens (.list items))])

/-- A key with its value. -/
def entry (key : Read Phrase) (g : Grammar) : Read Phrase := do
  let k ← key
  expectSymbol ":"
  return k ++ .text ": " ++ .expr (← g.anyExpr)

/-- Keys and values in braces. -/
def entries (lead : String) (key : Read Phrase) (g : Grammar) : Read Expr := do
  expectSymbol "\x7b"
  let items ← commaSeparated0 (entry key g) "\x7d"
  expectSymbol "\x7d"
  return Phrase.form (.text (lead ++ "\x7b") ++ .sepBy ", " items ++ .text "\x7d")

/-- `MAP` with its keys and values. -/
def mapForm (g : Grammar) : Read Expr := entries "MAP " (do return .expr (← g.anyExpr)) g

/-- A call in braces: `{fn f(a)}`. -/
def bracedCall (g : Grammar) : Read Expr := do
  expectKeyword "FN"
  let name ← objectName
  match ← CallReader.call g (interval g) name with
  | .form (.call name) layout parts =>
    return Phrase.form (Phrase.text ("\x7bfn " ++ renderName name) ++ { layout, parts } ++ .text "\x7d")
  | e => return e

/-- A point in time in braces: `{d '2020-05-20'}`. -/
def bracedTime : Read Expr := do
  let shown := match ← peek 0 with
    | some t => t.text
    | none => "EOF"
  if ["t", "d", "ts"].contains shown then
    skip
    let v ← value
    return Phrase.form (Phrase.text ("\x7b" ++ shown ++ " " ++ v.render ++ "\x7d"))
  expected "ODBC datetime keyword (t, d, or ts)"

/-- What a brace begins. -/
def braceForm (g : Grammar) : Read Expr := do
  let here ← rest
  skip
  match ← attempt bracedTime with
  | some e =>
    expectSymbol "\x7d"
    return e
  | none =>
    match ← attempt (bracedCall g) with
    | some e =>
      expectSymbol "\x7d"
      return e
    | none =>
      if ← allows Rules.dictionaries then
        goTo here
        entries "" (do return .text (← identifier).render) g
      else expectedAt "an expression" here

/-! ### Functions without parentheses -/

/-- A function of time, whose parentheses may be missing. -/
def timeFunction (g : Grammar) (name : Ident) : Read Expr := do
  if ← symbol "(" then
    let (args, _) ← CallReader.arguments g
    let p := Phrase.text "(" ++ args ++ .text ")"
    return .form (.call [name]) p.layout p.parts
  return .form (.call [name]) [] []

/-- An array made of a query. -/
def arrayQuery (g : Grammar) (name : Ident) : Read Expr := do
  let q ← g.subquery
  let p := Phrase.text "(" ++ q.phrase ++ .text ")"
  return .form (.call [name]) p.layout p.parts

/-- The words that begin a geometric value. -/
def geometricWords : List String := ["CIRCLE", "BOX", "PATH", "LINE", "LSEG", "POINT", "POLYGON"]

/-- The form that a word begins, if it begins one; the word itself has been taken. -/
def special (g : Grammar) (w : Word) : Read (Option Expr) := do
  let rules ← rules
  let name : Ident := { text := w.text, quote := w.quote }
  let form (r : Read Expr) : Read (Option Expr) := do return some (← r)
  let formIf (allowed : Bool) (r : Read Expr) : Read (Option Expr) := do
    if allowed then return some (← r) else return none
  match w.keyword with
  | "TRUE" => formIf rules.booleanLiterals (return .literal (.boolean true))
  | "FALSE" => formIf rules.booleanLiterals (return .literal (.boolean false))
  | "NULL" => form (return .literal .null)
  | "CURRENT_CATALOG" | "CURRENT_USER" | "SESSION_USER" | "USER" =>
    formIf rules.sessionFunctions (return .form (.call [name]) [] [])
  | "CURRENT_TIMESTAMP" | "CURRENT_TIME" | "CURRENT_DATE" | "LOCALTIME" | "LOCALTIMESTAMP" =>
    form (timeFunction g name)
  | "CASE" => form (caseForm g)
  | "CONVERT" => form (convertForm g "CONVERT")
  | "TRY_CONVERT" => formIf rules.tryConvert (convertForm g "TRY_CONVERT")
  | "CAST" | "TRY_CAST" | "SAFE_CAST" => form (castForm g w.keyword)
  | "EXISTS" => form (existsForm g "")
  | "EXTRACT" => form (extractForm g)
  | "CEIL" | "FLOOR" => form (roundForm g w.keyword)
  | "POSITION" => do
    if ← isSymbol "(" then
      match ← attempt (positionForm g) with
      | some e => return some e
      | none => form (CallReader.call g (interval g) [name])
    else return none
  | "SUBSTR" | "SUBSTRING" => form (substringForm g w.keyword)
  | "OVERLAY" => form (overlayForm g)
  | "TRIM" => form (trimForm g)
  | "INTERVAL" => form (interval g)
  | "ARRAY" => do
    if ← symbol "[" then form (arrayForm g "ARRAY")
    else if (← isSymbol "(") && !rules.wrappedTypes then form (arrayQuery g name)
    else return none
  | "NOT" => form (notForm g)
  | "MATCH" => formIf rules.matchAgainst matchForm
  | "STRUCT" => formIf rules.structTypes (structForm g)
  | "MAP" => do formIf (rules.mapLiterals && (← isSymbol "\x7b")) (mapForm g)
  | "PRIOR" => do
    if ← isWithin .hierarchy then
      let e ← g.expr (← level .sum)
      return some (.form .plain [.text "PRIOR ", .part 0] [e])
    else return none
  | key =>
    if rules.customOperators && geometricWords.contains key then
      let v ← value
      return some (Phrase.form (.text (Text.lowered key ++ " " ++ v.render)))
    else return none

end TableFeed.Sql.FormReader
