import TableFeed.Sql.Keyword
import TableFeed.Sql.Parser.Basic

/-!
# Names, values and numbers

The small forms that all others are made of. A token that is not what such a form asks for is
taken all the same.
-/

namespace TableFeed.Sql.Read

/-! ### Names -/

/-- The name that a token is, if it can be one. -/
def identOf : Token → Option Ident
  | .word w => some { text := w.text, quote := w.quote }
  | .quoted .single s => some { text := s, quote := some '\'' }
  | .quoted .double s => some { text := s, quote := some '"' }
  | _ => none

/-- A name: any word, or a text in quotes. -/
def identifier : Read Ident := do
  match (← peek 0).bind identOf with
  | some i =>
    skip
    return i
  | none => refuse "identifier"

/-- A name, if one comes next. -/
def identifier? : Read (Option Ident) := attempt identifier

/-- The part of a dotted name behind the parts `done`, newest first. -/
def namePart (done : List Ident) : Read Ident := do
  if done.length == 1 && (← allows Rules.emptyNameParts) && (← isSymbol ".") then
    return { text := "" }
  identifier

/-- The parts of a dotted name, each one read by `part` from those before it, newest first. -/
def dotted {α : Type} (part : List α → Read α) : Read (List α) := do
  let first ← part []
  let done ← iterate [first] fun done => do
    if ← symbol "." then return some ((← part done) :: done)
    return none
  return done.reverse

/-- A dotted name. -/
def objectName : Read (List Ident) := dotted namePart

/-- A dotted name in which `*` may stand for any part. -/
def objectPattern : Read (List Ident) := dotted fun done => do
  if ← symbol "*" then return { text := "*" }
  namePart done

/-- The name of an operator: any tokens with periods between them. -/
def operatorName : Read Unit := do
  skip
  ignore (many (whenTaken (symbol ".") skip))

/-- Names in parentheses with commas between them. -/
def parenthesizedNames : Read (List Ident) := inParens (commaSeparated identifier)

/-- A list of columns in parentheses. If it is `optional` it may be missing, and with
`allowEmpty` there may be nothing between the parentheses. -/
def columnList {α : Type} (column : Read α) (optional allowEmpty : Bool) : Read (List α) := do
  if ← symbol "(" then
    if ← only allowEmpty (symbol ")") then return []
    let columns ← commaSeparated column
    expectSymbol ")"
    return columns
  else if optional then return []
  else expected "a list of columns in parentheses"

/-- A list of column names in parentheses. -/
def columnNames (optional allowEmpty : Bool) : Read (List Ident) :=
  columnList identifier optional allowEmpty

/-! ### Values -/

/-- Literals that follow a literal directly, where the dialect takes them for one. -/
def joined (text : String) : Read String := do
  if ← allows Rules.joinsStrings then
    iterate text fun acc => do
      match ← peek 0 with
      | some (.quoted .single s) | some (.quoted .double s) =>
        skip
        return some (acc ++ s)
      | _ => return none
  else return text

/-- A placeholder that begins with `:` or `@`, whose name must follow without a blank. -/
def namedPlaceholder (sign : String) : Read Literal := do
  let here ← rest
  match here with
  | [] => expected "an expression"
  | l :: more =>
    match l.gap with
    | some (text, place) =>
      throw (.message ("Expected: placeholder, found: " ++ text) (some place))
    | none =>
      match more with
      | m :: _ =>
        match m.token with
        | .word w => do
          skip; skip
          return .placeholder (sign ++ w.text)
        | .number digits false => do
          skip; skip
          return .placeholder (sign ++ digits)
        | _ => expectedAt "placeholder" more
      | [] => expectedAt "placeholder" []

/-- A literal value. -/
def value : Read Literal := do
  match ← peek 0 with
  | some (.word w) =>
    let booleans ← allows Rules.booleanLiterals
    if w.keyword == "NULL" then skip; return .null
    else if w.keyword == "TRUE" && booleans then skip; return .boolean true
    else if w.keyword == "FALSE" && booleans then skip; return .boolean false
    else match w.quote with
      | some '"' => do skip; return .quoted .double w.text
      | some _ => refuse "A value?"
      | none => refuse "a concrete value"
  | some (.number digits long) => do skip; return .number digits long
  | some (.quoted .single s) => do skip; return .quoted .single (← joined s)
  | some (.quoted .double s) => do skip; return .quoted .double (← joined s)
  | some (.quoted q s) => do skip; return .quoted q s
  | some (.dollar tag s) => do skip; return .dollar tag s
  | some (.placeholder s) => do skip; return .placeholder s
  | some (.symbol ":") => namedPlaceholder ":"
  | some (.symbol "@") => namedPlaceholder "@"
  | _ => refuse "a value"

/-- The text that a token is, if it can be one: a text in quotes, or a word that is no
keyword. -/
def textOf : Token → Option String
  | .word w => if Keyword.isReserved w then none else some w.text
  | .quoted .single s | .quoted .double s | .quoted .unicode s | .quoted .escaped s => some s
  | _ => none

/-- A text in quotes, or a word taken as text. -/
def literalString : Read String := do
  match (← peek 0).bind textOf with
  | some s =>
    skip
    return s
  | none => refuse "literal string"

/-- A text that must be in single quotes, or between dollar signs. -/
def commentText : Read String := do
  match ← peek 0 with
  | some (.quoted .single s) | some (.dollar _ s) => do skip; return s
  | _ => refuse "string literal"

/-! ### Numbers -/

/-- What goes wrong when digits are read as a whole number. -/
inductive BadNumber where
  | invalidDigit
  | tooLarge
  | tooSmall
  | empty

/-- How the failure is shown. -/
def BadNumber.text : BadNumber → String
  | invalidDigit => "invalid digit found in string"
  | tooLarge => "number too large to fit in target type"
  | tooSmall => "number too small to fit in target type"
  | empty => "cannot parse integer from empty string"

/-- The whole number up to `limit` that some digits write, read from the left; the first
digit that is none, or that makes the number too large, is what goes wrong. -/
def wholeNumber (limit : Nat) : Nat → List Char → Except BadNumber Nat
  | n, [] => .ok n
  | n, c :: cs =>
    if c.isDigit then
      let n := n * 10 + (c.toNat - 48)
      if n ≤ limit then wholeNumber limit n cs else .error .tooLarge
    else .error .invalidDigit

/-- The whole number that the next token writes, which must be a number. `what` names what is
expected and `type` the kind of number. -/
def numberUpTo (what type : String) (limit : Nat) : Read Nat := do
  match ← peek 0 with
  | some (.number digits _) =>
    match wholeNumber limit 0 digits.toList with
    | .ok n =>
      skip
      return n
    | .error e =>
      let here ← rest
      skip
      failAt ("Could not parse '" ++ digits ++ "' as " ++ type ++ ": " ++ e.text) here
  | _ => refuse what

/-- A whole number of 64 bits without a sign. -/
def unsigned : Read Nat := numberUpTo "literal int" "u64" 18446744073709551615

/-- A whole number of 64 bits, as text. -/
def signed : Read String := do
  let negative ← symbol "-"
  unless negative do
    let _ ← symbol "+"
  let n ← numberUpTo "number" "i64" 9223372036854775807
  return (if negative && n ≠ 0 then "-" else "") ++ toString n

/-- A number or a placeholder. -/
def numberValue : Read Literal := do
  let here ← rest
  match ← value with
  | .number digits long => return .number digits long
  | .placeholder s => return .placeholder s
  | _ =>
    putBack here
    expected "literal number"

/-- A number or a placeholder, with the sign before it if there is one. -/
def signedNumber : Read Expr := do
  if ← symbol "+" then return .unary .plus (.literal (← numberValue))
  if ← symbol "-" then return .unary .minus (.literal (← numberValue))
  return .literal (← numberValue)

/-- A length in parentheses, if one is given. -/
def length? : Read (Option Nat) := do
  if ← symbol "(" then
    let n ← unsigned
    expectSymbol ")"
    return some n
  return none

/-- A length in parentheses as it is shown. -/
def showLength : Option Nat → String
  | some n => "(" ++ toString n ++ ")"
  | none => ""

end TableFeed.Sql.Read
