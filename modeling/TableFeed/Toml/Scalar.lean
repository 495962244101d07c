import TableFeed.Decimal.Literal
import TableFeed.Text.Scanner
import TableFeed.Toml.Table

/-!
# Scalars

Texts in four kinds of quotes, numbers, truth values, dates and times.

    "a\tb"   'a\tb'   """…"""   '''…'''   1_000   0x10   1.5e3   inf   2024-01-02T03:04:05Z
-/

namespace TableFeed.Toml

open TableFeed Text Scanner

/-! ### Characters -/

/-- A character that may stand in a comment or, if it is no quote, in a text. -/
def isPlain (c : Char) : Bool := c == '\t' || (0x20 ≤ c.toNat && c.toNat ≠ 0x7F)

/-- A blank within a line. -/
def isSpace (c : Char) : Bool := c == ' ' || c == '\t'

/-- Pass over the blanks within a line. -/
def spaces : Scanner Unit := modify (·.dropWhile isSpace)

/-- The end of a line. -/
def newline : Scanner Unit := do
  let _ ← symbol '\r'
  mark '\n'

/-- A comment, if one comes next. -/
def comment : Scanner Unit := do
  if ← symbol '#' then
    let _ ← span isPlain

/-- Pass over blanks, line ends and comments. -/
def spacesAndLines : Scanner Unit := do
  let _ ← collect do
    let before := (← rest).length
    spaces
    comment
    let _ ← attempt newline
    return if (← rest).length < before then some () else none

/-! ### Texts -/

/-- The value of hexadecimal digits. -/
def hexValue (cs : List Char) : Option Nat :=
  cs.foldl (fun n c => do
    let n ← n
    let c := c.toLower
    if c.isDigit then return n * 16 + (c.toNat - 48)
    else if 'a' ≤ c ∧ c ≤ 'f' then return n * 16 + (c.toNat - 87)
    else none) (some 0)

/-- The character that so many hexadecimal digits name. -/
def named (width : Nat) : Scanner Char := do
  let cs := (← rest).take width
  if cs.length < width then failure
  match hexValue cs with
  | some n =>
    if n < 0xD800 ∨ (0xDFFF < n ∧ n < 0x110000) then
      set ((← rest).drop width)
      return Char.ofNat n
    else failure
  | none => failure

/-- What stands behind a backslash. -/
def escape : Scanner Char := do
  match ← charWhere fun _ => true with
  | 'b' => return Char.ofNat 8
  | 't' => return '\t'
  | 'n' => return '\n'
  | 'f' => return Char.ofNat 12
  | 'r' => return '\r'
  | '"' => return '"'
  | '\\' => return '\\'
  | 'u' => named 4
  | 'U' => named 8
  | _ => failure

/-- A text in double quotes, behind the first one. -/
def basicText : Scanner String := do
  let cs ← collect do
    match ← peek with
    | some '"' => return none
    | some '\\' => do
      mark '\\'
      return some (← escape)
    | _ => return some (← charWhere isPlain)
  mark '"'
  return String.ofList cs

/-- A text in single quotes, behind the first one. -/
def literalText : Scanner String := do
  let cs ← span fun c => isPlain c && c != '\''
  mark '\''
  return String.ofList cs

/-- The quotes at the end of a text over several lines: the last three close it, and one or two
before them belong to it. -/
def closing (quote : Char) : Scanner (List Char) := do
  let count := min ((← rest).takeWhile (· == quote)).length 5
  if count < 3 then failure
  set ((← rest).drop count)
  return List.replicate (count - 3) quote

/-- Pass over the blanks and line ends behind a backslash at the end of a line. -/
def continuation : Scanner Unit := do
  spaces
  newline
  let _ ← collect do
    let before := (← rest).length
    spaces
    let _ ← attempt newline
    return if (← rest).length < before then some () else none

/-- One character of a text over several lines. -/
def blockChar (escapes : Bool) : Scanner (List Char) := do
  if ← symbol '\\' then
    if !escapes then return ['\\']
    match ← attempt escape with
    | some c => return [c]
    | none => do
      continuation
      return []
  else
    match ← attempt newline with
    | some () => return ['\n']
    | none => return [← charWhere isPlain]

/-- Whether three quotes come next. -/
def closes (quote : Char) : Scanner Bool := do
  return (← rest).take 3 == List.replicate 3 quote

/-- A text over several lines, behind the first three quotes. A line end right behind them does
not belong to it. -/
def blockText (quote : Char) (escapes : Bool) : Scanner String := do
  let _ ← attempt newline
  let pieces ← collect do
    if ← closes quote then return none
    return some (← blockChar escapes)
  return String.ofList (pieces.flatten ++ (← closing quote))

/-- A text in quotes. -/
def quotedText : Scanner String := do
  if ← word ['"', '"', '"'] then blockText '"' true
  else if ← symbol '"' then basicText
  else if ← word ['\'', '\'', '\''] then blockText '\'' false
  else
    mark '\''
    literalText

/-! ### Numbers -/

/-- Digits with single underscores between them. -/
def digitRun (isDigit : Char → Bool) : Scanner (List Char) := do
  let first ← charWhere isDigit
  let others ← collect do
    if ← symbol '_' then return some (← charWhere isDigit)
    attempt (charWhere isDigit)
  return first :: others

/-- A sign, if one comes next: whether it is a minus. -/
def sign : Scanner Bool := do
  if ← symbol '-' then return true
  let _ ← symbol '+'
  return false

/-- The digits of a whole number, which begins with a zero only if it is zero. -/
def wholeDigits : Scanner (List Char) := do
  if ← symbol '0' then return ['0']
  digitRun Char.isDigit

/-- The value of digits to some base. -/
def valueTo (base : Nat) (cs : List Char) : Nat :=
  cs.foldl (fun n c => n * base + if c.isDigit then c.toNat - 48 else c.toLower.toNat - 87) 0

/-- Whether a character is a hexadecimal digit. -/
def isHexDigit (c : Char) : Bool :=
  c.isDigit || ('a' ≤ c && c ≤ 'f') || ('A' ≤ c && c ≤ 'F')

/-- A whole number without a sign to the base that its second character names. -/
def basedNumber : Scanner Nat := do
  mark '0'
  match ← charWhere fun _ => true with
  | 'x' => return valueTo 16 (← digitRun isHexDigit)
  | 'o' => return valueTo 8 (← digitRun fun c => '0' ≤ c && c ≤ '7')
  | 'b' => return valueTo 2 (← digitRun fun c => c == '0' || c == '1')
  | _ => failure

/-- A whole number of 64 bits. -/
def integer : Scanner Value := do
  let n : Int ← match ← attempt basedNumber with
    | some n => pure (n : Int)
    | none =>
      let negative ← sign
      let n : Int := valueTo 10 (← wholeDigits)
      pure (if negative then -n else n)
  if -9223372036854775808 ≤ n ∧ n ≤ 9223372036854775807 then return .integer n else failure

/-- The exponent of a number, if it has one. -/
def exponent : Scanner (Option Int) := do
  if (← symbol 'e') then pure ()
  else if (← symbol 'E') then pure ()
  else return none
  let negative ← sign
  let n : Int := valueTo 10 (← digitRun Char.isDigit)
  return some (if negative then -n else n)

/-- A number with a fraction or an exponent, or one of the two that are no numbers. Positive
infinity must be written as such: no digits may round to it. -/
def float : Scanner Value := do
  let negative ← sign
  if ← word ['i', 'n', 'f'] then return .float
  if ← word ['n', 'a', 'n'] then return .float
  let whole ← wholeDigits
  let fraction ← if ← symbol '.' then digitRun Char.isDigit else pure []
  let e ← exponent
  if fraction.isEmpty && e.isNone then failure
  let size := Decimal.scaled (whole ++ fraction) (e.getD 0 - fraction.length)
  if size.isInf && !negative then failure
  return .float

/-! ### Dates and times -/

/-- Two digits of at most some value. -/
def upTo (limit : Nat) : Scanner Nat := do
  let n := valueOf (← exactDigits 2)
  if n ≤ limit then return n else failure

/-- The number of days of a month. -/
def monthDays (year month : Nat) : Nat :=
  if month == 2 then
    if year % 4 == 0 && (year % 100 != 0 || year % 400 == 0) then 29 else 28
  else if [4, 6, 9, 11].contains month then 30
  else 31

/-- A date. -/
def date : Scanner Unit := do
  let year := valueOf (← exactDigits 4)
  mark '-'
  let month ← upTo 12
  mark '-'
  let day ← upTo 31
  if month = 0 ∨ day = 0 ∨ day > monthDays year month then failure

/-- A time of day. -/
def time : Scanner Unit := do
  let _ ← upTo 23
  mark ':'
  let _ ← upTo 59
  mark ':'
  let _ ← upTo 60
  if ← symbol '.' then
    let _ ← digits (← rest).length

/-- An offset from universal time. -/
def zone : Scanner Unit := do
  let c ← charWhere fun c => c == 'Z' || c == 'z' || c == '+' || c == '-'
  if c == '+' || c == '-' then
    let _ ← upTo 23
    mark ':'
    let _ ← upTo 59

/-- A date, a time, or a date with a time and perhaps an offset. -/
def moment : Scanner Value := do
  match ← attempt date with
  | some () =>
    let _ ← attempt do
      let _ ← charWhere fun c => c == 'T' || c == 't' || c == ' '
      time
      attempt zone
  | none => time
  return .moment

/-- A number, a date or a time. -/
def numeric : Scanner Value := orElse moment (orElse float integer)

/-- A scalar. -/
def scalar : Scanner Value := do
  match ← peek with
  | some '"' | some '\'' => return .text (← quotedText)
  | some 't' => do
    marks ['t', 'r', 'u', 'e']
    return .boolean true
  | some 'f' => do
    marks ['f', 'a', 'l', 's', 'e']
    return .boolean false
  | _ => numeric

end TableFeed.Toml
