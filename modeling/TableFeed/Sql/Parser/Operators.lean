import TableFeed.Sql.Parser.Grammar

/-!
# Operators and how tightly they bind

Operators of two operands are read by precedence: an operand takes in every operator that
binds tighter than the one before it. There are two tables of precedences, one for the dialect
whose operators are open to its users, and one for all others; a token that is no operator has
precedence zero.
-/

namespace TableFeed.Sql

/-- The groups of operators of one precedence. -/
inductive Level where
  | period
  | cast
  | atTimeZone
  | product
  | sum
  | xor
  | ampersand
  | caret
  | pipe
  | between
  | equality
  | like
  | is
  | operator
  | not
  | and
  | or
  deriving DecidableEq, Repr

/-- The precedence of a group; `open` operators have a table of their own. -/
def Level.precedence (isOpen : Bool) : Level → Nat
  | period => if isOpen then 200 else 100
  | cast => if isOpen then 140 else 50
  | atTimeZone => if isOpen then 110 else 41
  | product => if isOpen then 90 else 40
  | sum => if isOpen then 80 else 30
  | xor => if isOpen then 75 else 24
  | ampersand => if isOpen then 70 else 23
  | caret => if isOpen then 100 else 22
  | pipe => if isOpen then 70 else 21
  | between => if isOpen then 60 else 20
  | equality => if isOpen then 50 else 20
  | like => if isOpen then 60 else 19
  | is => if isOpen then 40 else 17
  | operator => if isOpen then 70 else 16
  | not => if isOpen then 30 else 15
  | and => if isOpen then 20 else 10
  | or => if isOpen then 10 else 5

/-- The precedence of the square bracket behind an operand, where it has one of its own. -/
def openBracketPrecedence : Nat := 130

/-- The precedence of a collation behind an operand, where it has one. It is an operator in name
only: a collation that does not follow a simple operand is refused. -/
def openCollatePrecedence : Nat := 120

/-- The group of an operator that is written with signs. -/
def symbolLevel (isOpen : Bool) (s : String) : Option Level :=
  let openOperators :=
    ["->", "->>", "#>", "#>>", "@>", "<@", "#-", "@?", "@@", "?", "?&", "?|", "!", "&&", "^@",
      "||", "#", ">>", "<<"]
  if isOpen && openOperators.contains s then some .operator
  else if s == "." then some .period
  else if [":=", "=", "<", "<=", "<>", ">", ">=", "==", "~", "~*", "!~", "!~*", "~~", "~~*",
    "!~~", "!~~*", "<=>"].contains s then some .equality
  else if ["|", "?-", "##", "&&", "&<", "&>", "?-|", "&<|", "|&>", "<->", "<^", ">^", "?#", "?||",
    "?|", "~=", "@", "<<|", "|>>"].contains s then some .pipe
  else if ["^", "#", ">>", "<<"].contains s then some .caret
  else if s == "&" then some .ampersand
  else if ["+", "-"].contains s then some .sum
  else if ["*", "/", "//", "%", "||"].contains s then some .product
  else if ["::", "!", "[", "^@"].contains s then some .cast
  else if ["->", "->>", "#>", "#>>", "@>", "<@", "#-", "@?", "@@", "?", "?&"].contains s then
    some .operator
  else none

/-- The group of an operator that is written as a word, or that begins with one. -/
def wordLevel (rules : Rules) (inColumn : Bool) (key second third : String) : Option Level :=
  match key with
  | "OR" => some .or
  | "AND" => some .and
  | "XOR" => some .xor
  | "AT" => if second == "TIME" && third == "ZONE" then some .atTimeZone else none
  | "NOT" =>
    match second with
    | "IN" | "BETWEEN" => some .between
    | "LIKE" | "ILIKE" | "RLIKE" | "REGEXP" | "MATCH" | "SIMILAR" | "MEMBER" => some .like
    | "NULL" => if inColumn then none else some .is
    | _ => none
  | "NOTNULL" => if rules.notNullOperator then some .is else none
  | "IS" => some .is
  | "IN" | "BETWEEN" | "OVERLAPS" | "OPERATOR" => some .between
  | "LIKE" | "ILIKE" | "RLIKE" | "REGEXP" | "MATCH" | "SIMILAR" | "MEMBER" => some .like
  | "DIV" => some .product
  | _ => none

namespace Read

/-- The precedence of a group in the dialect. -/
def level (l : Level) : Read Nat := do
  return l.precedence (← allows Rules.customOperators)

/-- The precedence of the next token. -/
def nextPrecedence : Read Nat := do
  let rules ← rules
  let isOpen := rules.customOperators
  match ← peek 0 with
  | some (.symbol "[") =>
    return if isOpen then openBracketPrecedence else Level.cast.precedence isOpen
  | some (.symbol s) => return ((symbolLevel isOpen s).map (·.precedence isOpen)).getD 0
  | some (.operator _) => return Level.operator.precedence isOpen
  | some (.word w) =>
    let inColumn ← isWithin .column
    if isOpen && !inColumn && w.keyword == "COLLATE" then return openCollatePrecedence
    return ((wordLevel rules inColumn w.keyword (← keywordAt 1) (← keywordAt 2)).map
      (·.precedence isOpen)).getD 0
  | _ => return 0

end Read

/-- The operator of two operands that a token is in a dialect. -/
def binaryOp? (rules : Rules) : Token → Option BinaryOp
  | .operator s => some (.other s)
  | .symbol "+" => some .add
  | .symbol "-" => some .sub
  | .symbol "*" => some .mul
  | .symbol "/" => some .div
  | .symbol "%" => some .rem
  | .symbol "==" => some (.other "=")
  | .symbol "//" => if rules.intDivision then some (.other "//") else none
  | .symbol "&&" => if rules.overlaps then some (.other "&&") else none
  | .symbol "^@" => if rules.startsWith then some (.other "^@") else none
  | .symbol s =>
    if ["<<", ">>"].contains s then if rules.bitShifts then some (.other s) else none
    else if ["#", "##", "&<", "&>", "<->", "&<|", "|&>", "<<|", "|>>", "<^", ">^", "?#", "?-",
      "?-|", "?||", "~=", "@"].contains s then
      if rules.customOperators then some (.other s) else none
    else if [":=", "=", "<=>", "<>", ">", ">=", "<", "<=", "||", "|", "^", "&", "~", "~*", "!~",
      "!~*", "~~", "~~*", "!~~", "!~~*", "->", "->>", "#>", "#>>", "@>", "<@", "#-", "@?", "@@",
      "?", "?&", "?|"].contains s then some (.other s)
    else none
  | .word w =>
    if ["AND", "OR", "XOR", "OVERLAPS"].contains w.keyword then some (.other w.keyword) else none
  | _ => none

/-- The operators that may stand before `ANY`, `ALL` and `SOME`. -/
def comparesAny (op : BinaryOp) : Bool :=
  ["=", "<>", ">", "<", ">=", "<=", "~", "~*", "!~", "!~*", "~~", "~~*", "!~~",
    "!~~*"].contains op.sign

end TableFeed.Sql
