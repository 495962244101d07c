import TableFeed.Sql.Parser.Forms

/-!
# Expressions

An expression is read by precedence climbing. First comes an operand: a literal, a name, a
call, a form in parentheses or one that begins with a keyword; then fields and subscripts of
it; then operators, as long as they bind tighter than the operator before the operand.

    a + b * c.d[1]        +( a , *( b , c.d[1] ) )
-/

namespace TableFeed.Sql.ExprReader

open Read

/-! ### Operands -/

/-- A data type with a literal behind it, or an interval. Types made by the user do not count,
because any name could be one. -/
def typed (g : Grammar) : Read Expr := do
  let here ← rest
  let t ← g.fullType
  if t.isInterval then FormReader.interval g
  else if t.isCustom then failAt "no type of a literal" here
  else
    let v ← value
    return Phrase.form (t.phrase ++ .text (" " ++ v.render))

/-- A function that is written as its parameters and its value, behind the parameters. -/
def lambda (g : Grammar) (parameters : String) : Read Expr := do
  return Phrase.form (.text (parameters ++ " -> ") ++ .expr (← g.anyExpr))

/-- What a word that begins no form of its own stands for: a call, the character set of a text,
the parameter of a function, or a name. The word has been taken. -/
def plainWord (g : Grammar) (w : Word) : Read Expr := do
  let name : Ident := { text := w.text, quote := w.quote }
  if ← isSymbol "(" then CallReader.call g (FormReader.interval g) [name]
  else
    let introduces := w.text.toList.head? == some '_'
    match ← peek 0 with
    | some (.quoted q s) =>
      if introduces && (q == .single || q == .double || q == .hex) then
        skip
        return Phrase.form (.text (name.render ++ " ") ++ .expr (.literal (.quoted q s)))
      return .identifier name
    | _ =>
      if ← only (← allows Rules.lambdas) (symbol "->") then lambda g name.render
      else return .identifier name

/-- A word: the form that it begins, or else what it stands for by itself. The answer says too
whether a collation may follow; none does behind a word whose form could not be read. -/
def word (g : Grammar) (w : Word) : Read (Expr × Bool) := do
  skip
  match ← outcome (FormReader.special g w) with
  | .ok (some e) => return (e, true)
  | .ok none => return (← plainWord g w, true)
  | .error e =>
    if FormReader.reservedNames.contains w.keyword then throw e
    match ← outcome (plainWord g w) with
    | .ok found => return (found, false)
    | .error _ => throw e

/-- Parameters in parentheses and the value of a function of them, behind the opening
parenthesis. -/
def lambdaOfSeveral (g : Grammar) : Read Expr := do
  let names ← commaSeparated identifier
  expectSymbol ")"
  expectSymbol "->"
  lambda g ("(" ++ PropertyReader.showNames names ++ ")")

/-- What an opening parenthesis begins: a query, one expression or several, or the parameters of
a function. A collation does not follow a function. -/
def parens (g : Grammar) : Read (Expr × Bool) := do
  skip
  let key ← keywordAt 0
  if key == "SELECT" || key == "WITH" then
    let q ← g.query
    expectSymbol ")"
    return (Phrase.form (.inParens q.phrase), true)
  let function ←
    if ← allows Rules.lambdas then attempt (lambdaOfSeveral g) else pure none
  match function with
  | some f => return (f, false)
  | none =>
    let items ← g.exprs
    expectSymbol ")"
    match items with
    | [e] => return (.nested e, true)
    | _ => return (.tuple items, true)

/-- A sign before its operand. -/
def signed (g : Grammar) (op : UnaryOp) (l : Level) : Read Expr := do
  skip
  return .unary op (← g.expr (← level l))

/-- An operand that is neither a word nor begins with a parenthesis, without a collation. -/
def simple (g : Grammar) : Read Expr := do
  match ← peek 0 with
  | some (.number _ _) | some (.quoted _ _) | some (.dollar _ _) | some (.placeholder _)
  | some (.symbol ":") => return .literal (← value)
  | some (.symbol "[") => do skip; FormReader.arrayForm g ""
  | some (.symbol "-") => signed g .minus .product
  | some (.symbol "+") => signed g .plus .product
  | some (.symbol "~") => signed g (.before "~") .sum
  | some (.symbol "\x7b") => FormReader.braceForm g
  | some (.symbol s) =>
    if (← allows Rules.customOperators) &&
      ["!!", "|/", "||/", "@", "#", "@-@", "@@", "?-", "?|"].contains s then
      signed g (.before s) .sum
    else if s == "@" then return .literal (← value)
    else refuse "an expression"
  | _ => refuse "an expression"

/-- An operand. -/
def primary (g : Grammar) : Read Expr := do
  match ← attempt (typed g) with
  | some e => return e
  | none =>
    let (e, collates) ← do
      match ← peek 0 with
      | some (.word w) => word g w
      | some (.symbol "(") => parens g
      | _ => pure (← simple g, true)
    let inColumn ← isWithin .column
    if ← only (collates && !inColumn) (keyword "COLLATE") then
      let name ← objectName
      return Phrase.form (.expr e ++ .text (" COLLATE " ++ renderName name))
    return e

/-! ### Fields and subscripts -/

/-- What stands behind an operand: a field or a subscript. -/
inductive Link where
  | field (e : Expr)
  | other (p : Phrase)

/-- The name that an expression is. -/
def nameOf : Expr → Option Ident
  | .identifier i => some i
  | _ => none

/-- The name of the field that a link is. -/
def Link.name : Link → Option Ident
  | field e => nameOf e
  | other _ => none

/-- A link as a phrase. -/
def Link.phrase : Link → Phrase
  | field e => .text "." ++ .expr e
  | other p => p

/-- An operand with its links: a dotted name if all of them are names, a call if the last one
is a call and all before it are names, and an access otherwise. -/
def linked (root : Expr) (links : List Link) : Expr :=
  let access :=
    let p := Phrase.expr root ++ .concat (links.map Link.phrase)
    .form .access p.layout p.parts
  match links.reverse, nameOf root with
  | [], _ => root
  | last :: before, some first =>
    match before.reverse.mapM Link.name with
    | none => access
    | some middle =>
      match last with
      | .field (.identifier i) => .compound (first :: middle ++ [i])
      | .field (.form (.call name) layout parts) =>
        .form (.call (first :: middle ++ name)) layout parts
      | _ => access
  | _ :: _, none => access

/-- One subscript, behind its opening bracket. -/
def subscript (g : Grammar) : Read Phrase := do
  let lower ← do
    if ← symbol ":" then pure none else pure (some (← g.anyExpr))
  let shown (e : Option Expr) : Phrase := .optional "" (e.map .expr)
  let slice (upper : Phrase) : Phrase := .text "[" ++ shown lower ++ .text ":" ++ upper ++ .text "]"
  if ← symbol "]" then
    match lower with
    | some e => return .text "[" ++ .expr e ++ .text "]"
    | none => return slice .empty
  if lower.isSome then expectSymbol ":"
  if ← symbol "]" then return slice .empty
  let upper ← g.anyExpr
  if ← symbol "]" then return slice (.expr upper)
  expectSymbol ":"
  if ← symbol "]" then return slice (.expr upper)
  let stride ← g.anyExpr
  expectSymbol "]"
  return slice (.expr upper ++ .text ":" ++ .expr stride)

/-- What may stand behind a period. -/
def suffix (g : Grammar) : Read Expr := do
  let e ← g.expr (← level .period)
  match e with
  | .identifier _ | .compound _ | .literal _ | .form (.call _) _ _ | .form .access _ _ => return e
  | _ => expected "an identifier or value"

/-- The links that an expression behind a period makes. -/
def linksOf : Expr → List Link
  | .compound parts => parts.map fun i => .field (.identifier i)
  | .form .access layout parts => [.other (.text "." ++ { layout, parts })]
  | e => [.field e]

/-- The state of reading links: those found, newest first, and whether a `*` has ended them. -/
structure Chain where
  links : List Link := []
  wildcard : Bool := false

/-- One more link, if one follows. -/
def link (g : Grammar) (c : Chain) : Read (Option Chain) := do
  if c.wildcard then return none
  let here ← rest
  if ← symbol "." then
    match ← peek 0 with
    | some (.symbol "*") =>
      if ← allows Rules.wildcardExpression then
        skip
        return some { c with wildcard := true }
      goTo here
      return none
    | some (.quoted .single s) =>
      skip
      return some { c with links := .field (.identifier { text := s, quote := some '\'' }) :: c.links }
    | some (.placeholder s) =>
      skip
      return some { c with links := .field (.identifier { text := s }) :: c.links }
    | _ =>
      match ← attempt (suffix g) with
      | some e => return some { c with links := (linksOf e).reverse ++ c.links }
      | none => return some { c with links := .field (.identifier (← identifier)) :: c.links }
  if ← symbol "[" then return some { c with links := .other (← subscript g) :: c.links }
  return none

/-- An operand with its fields and subscripts. -/
def compound (g : Grammar) (root : Expr) : Read Expr := do
  let c ← iterate {} (link g)
  let links := c.links.reverse
  if c.wildcard then
    match nameOf root, links.mapM Link.name with
    | some first, some names => return .wildcard (first :: names)
    | _, _ => expected "an identifier or a '*' after '.'"
  return linked root links

/-! ### Operators -/

/-- A phrase that begins with an operand. -/
def behind (e : Expr) (text : String) : Expr := Phrase.form (.expr e ++ .text text)

/-- The operand of `ANY`, `ALL` or `SOME`, and whether it stands in parentheses of its own. -/
def quantified (g : Grammar) (precedence : Nat) : Read (Expr × Bool) := do
  let here ← rest
  expectSymbol "("
  let key ← keywordAt 0
  if key == "SELECT" || key == "WITH" then
    goTo here
    return (← g.expr precedence, false)
  let e ← g.expr precedence
  expectSymbol ")"
  return (e, true)

/-- An operator between two operands, read behind the operator; `start` are the tokens from the
operator on. -/
def binary (g : Grammar) (left : Expr) (op : BinaryOp) (precedence : Nat) (start : List Lexeme) :
    Read Expr := do
  match ← oneOf ["ANY", "ALL", "SOME"] with
  | some quantifier =>
    let (right, parens) ← quantified g precedence
    unless comparesAny op do
      failAt ("Expected one of [=, >, <, =>, =<, !=, ~, ~*, !~, !~*, ~~, ~~*, !~~, !~~*] as " ++
        "comparison operator, found: " ++ op.sign) start
    let inner := if parens then Phrase.text "(" ++ .expr right ++ .text ")" else .expr right
    return Phrase.form (.expr left ++ .text (" " ++ op.sign ++ " " ++ quantifier) ++ inner)
  | none => return .binary left op (← g.expr precedence)

/-- The tests of `IS`. -/
def isTests : List (List String) :=
  [["NULL"], ["NOT", "NULL"], ["TRUE"], ["NOT", "TRUE"], ["FALSE"], ["NOT", "FALSE"],
    ["UNKNOWN"], ["NOT", "UNKNOWN"]]

/-- The form of normalization that a test may ask for, behind `IS`. -/
def normalized : Read String := do
  let negated ← keyword "NOT"
  let form ← oneOf ["NFC", "NFD", "NFKC", "NFKD"]
  expectKeyword "NORMALIZED"
  return " IS " ++ (if negated then "NOT " else "") ++ (form.map (· ++ " ")).getD "" ++
    "NORMALIZED"

/-- A test that begins with `IS`. -/
def isForm (g : Grammar) (left : Expr) : Read Expr := do
  if let some test ← firstOf isTests then return behind left (" IS " ++ " ".intercalate test)
  let distinct (words : String) : Read Expr := do
    return Phrase.form (.expr left ++ .text words ++ .expr (← g.anyExpr))
  if ← keywords ["DISTINCT", "FROM"] then distinct " IS DISTINCT FROM "
  else if ← keywords ["NOT", "DISTINCT", "FROM"] then distinct " IS NOT DISTINCT FROM "
  else match ← orNothing normalized with
    | some text => return behind left text
    | none => expected "[NOT] NULL | TRUE | FALSE | DISTINCT | [form] NORMALIZED FROM after IS"

/-- `IN`, read behind the keyword. -/
def inForm (g : Grammar) (left : Expr) (negation : String) : Read Expr := do
  let start := Phrase.expr left ++ .text (negation ++ " IN ")
  if ← keyword "UNNEST" then
    let e ← inParens g.anyExpr
    return Phrase.form (start ++ .text "UNNEST(" ++ .expr e ++ .text ")")
  expectSymbol "("
  let inner ← do
    match ← attempt g.query with
    | some q => pure q.phrase
    | none =>
      if ← allows Rules.emptyInList then pure (Phrase.list (← commaSeparated0 g.anyExpr ")"))
      else pure (Phrase.list (← g.exprs))
  expectSymbol ")"
  return Phrase.form (start ++ .text "(" ++ inner ++ .text ")")

/-- The escape character of a pattern. -/
def escape : Read String := do
  if ← keyword "ESCAPE" then return " ESCAPE " ++ (← value).render
  return ""

/-- A pattern behind `words`. -/
def pattern (g : Grammar) (left : Expr) (words : String) : Read Expr := do
  let any ← keyword "ANY"
  let p ← g.expr (← level .like)
  let tail ← escape
  return Phrase.form (.expr left ++ .text (words ++ if any then "ANY " else "") ++ .expr p ++
    .text tail)

/-- A test that begins with `NOT`, `IN`, `BETWEEN` or the name of a kind of pattern. -/
def testForm (g : Grammar) (left : Expr) : Read Expr := do
  let negated ← keyword "NOT"
  let negation := if negated then " NOT" else ""
  let regexp ← keyword "REGEXP"
  let rlike ← keyword "RLIKE"
  let null ← if ← isWithin .column then pure false else keyword "NULL"
  if regexp || rlike then
    let p ← g.expr (← level .like)
    let sign := if regexp then " REGEXP " else " RLIKE "
    return Phrase.form (.expr left ++ .text (negation ++ sign) ++ .expr p)
  else if negated && null then return behind left " IS NOT NULL"
  else if ← keyword "IN" then inForm g left negation
  else if ← keyword "BETWEEN" then
    let low ← g.expr (← level .between)
    expectKeyword "AND"
    let high ← g.expr (← level .between)
    return Phrase.form (.expr left ++ .text (negation ++ " BETWEEN ") ++ .expr low ++
      .text " AND " ++ .expr high)
  else if ← keyword "LIKE" then pattern g left (negation ++ " LIKE ")
  else if ← keyword "ILIKE" then pattern g left (negation ++ " ILIKE ")
  else if ← keywords ["SIMILAR", "TO"] then
    let p ← g.expr (← level .like)
    let tail ← escape
    return Phrase.form (.expr left ++ .text (negation ++ " SIMILAR TO ") ++ .expr p ++ .text tail)
  else expected "IN or BETWEEN after NOT"

/-- The name of an operator behind `OPERATOR`. -/
def operatorName : Read String := do
  expectSymbol "("
  let piece : Read String := do
    return match ← next with
      | some t => t.text
      | none => "EOF"
  let first ← piece
  let parts ← iterate [first] fun done => do
    if ← symbol "." then return some ((← piece) :: done)
    return none
  expectSymbol ")"
  return "OPERATOR(" ++ ".".intercalate parts.reverse ++ ")"

/-- An operator that is a word, read behind the word; `start` are the tokens from the word on.
The tests that a dialect does not know have no meaning as operators. -/
def wordForm (g : Grammar) (left : Expr) (w : Word) (precedence : Nat) (start : List Lexeme) :
    Read Expr := do
  let rules ← rules
  let unknown : Read Expr :=
    failAt ("No infix parser for token " ++ (Token.word w).description) start
  match w.keyword with
  | "DIV" =>
    if rules.divOperator then return .binary left (.other "DIV") (← g.anyExpr) else unknown
  | "OPERATOR" =>
    if rules.operatorKeyword then
      let name ← operatorName
      binary g left (.other name) precedence start
    else unknown
  | "IS" => isForm g left
  | "AT" =>
    expectKeywords ["TIME", "ZONE"]
    return Phrase.form (.expr left ++ .text " AT TIME ZONE " ++ .expr (← g.expr precedence))
  | "REGEXP" =>
    if rules.matchOperators then return .binary left (.other "REGEXP") (← g.anyExpr)
    else
      goTo start
      testForm g left
  | "NOT" | "IN" | "BETWEEN" | "LIKE" | "ILIKE" | "SIMILAR" | "RLIKE" =>
    goTo start
    testForm g left
  | "MATCH" =>
    if rules.matchOperators then return .binary left (.other "MATCH") (← g.anyExpr) else unknown
  | "NOTNULL" => return behind left " IS NOT NULL"
  | "MEMBER" =>
    if ← keyword "OF" then
      let e ← inParens g.anyExpr
      return Phrase.form (.expr left ++ .text " MEMBER OF(" ++ .expr e ++ .text ")")
    expected "OF after MEMBER"
  | _ => unknown

/-- An operand on the left, with the operator that comes next and what belongs to it. -/
def infixed (g : Grammar) (left : Expr) (precedence : Nat) : Read Expr := do
  let start ← rest
  match ← next with
  | none => return left
  | some t =>
    match binaryOp? (← rules) t with
    | some op => binary g left op precedence start
    | none =>
      match t with
      | .word w => wordForm g left w precedence start
      | .symbol "::" =>
        let type ← g.fullType
        return Phrase.form (.expr left ++ .text "::" ++ type.phrase)
      | .symbol "!" =>
        if ← allows Rules.customOperators then return .unary (.after "!") left
        failAt ("No infix parser for token " ++ t.description) start
      | _ => failAt ("No infix parser for token " ++ t.description) start

/-- An expression whose operators bind tighter than `precedence`. -/
def expr (g : Grammar) (precedence : Nat) : Read Expr := nest do
  let operand ← compound g (← primary g)
  iterate operand fun left => do
    let next ← nextPrecedence
    if precedence ≥ next then return none
    if ← isSymbol "." then return none
    return some (← infixed g left next)

end TableFeed.Sql.ExprReader
