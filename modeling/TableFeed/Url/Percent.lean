import TableFeed.Text.Utf8

/-!
# Percent encoding

In a part of an address, a character that may not stand there is written by its bytes, each as a
percent sign and two hexadecimal digits.

    "a b/é"   ──encodeSegment──▶   "a%20b%2F%C3%A9"
-/

namespace TableFeed.Url

open TableFeed

/-- A hexadecimal digit, as a capital. -/
def hexDigit (n : Nat) : Char := (Nat.digitChar n).toUpper

/-- The value of a hexadecimal digit. -/
def hexValue? (c : Char) : Option Nat :=
  if c.isDigit then some (c.toNat - 48)
  else if 'A' ≤ c ∧ c ≤ 'F' then some (c.toNat - 55)
  else if 'a' ≤ c ∧ c ≤ 'f' then some (c.toNat - 87)
  else none

/-- A byte as a percent sign and two digits. -/
def escapedByte (b : UInt8) : List Char :=
  ['%', hexDigit (b.toNat / 16), hexDigit (b.toNat % 16)]

/-- A character as it is if `keeps` holds, and by its bytes otherwise. -/
def escapedChar (keeps : Char → Bool) (c : Char) : List Char :=
  if keeps c then [c] else (Text.encodeChar c).flatMap escapedByte

/-- Characters, each as it is if `keeps` holds, and by its bytes otherwise. -/
def escaped (keeps : Char → Bool) (cs : List Char) : List Char := cs.flatMap (escapedChar keeps)

/-- The bytes that are written by some characters. -/
def unescaped : List Char → List UInt8
  | '%' :: a :: b :: rest =>
    match hexValue? a, hexValue? b with
    | some high, some low => UInt8.ofNat (high * 16 + low) :: unescaped rest
    | _, _ => Text.encodeChar '%' ++ unescaped (a :: b :: rest)
  | c :: rest => Text.encodeChar c ++ unescaped rest
  | [] => []

/-! ### Segments -/

/-- A character that stands for itself everywhere in an address. -/
def isUnreserved (c : Char) : Bool :=
  c.isAlphanum || c == '-' || c == '_' || c == '.' || c == '~'

/-- Any text as one segment of a path. -/
def encodeSegment (s : String) : String := String.ofList (escaped isUnreserved s.toList)

/-! ### What may stand in a path and in a query -/

/-- A character that is never written by its bytes: it is ASCII and no control character. -/
def isGraphic (c : Char) : Bool := 0x20 < c.toNat && c.toNat < 0x7F

/-- A character that stands for itself in a path. -/
def keptInPath (c : Char) : Bool :=
  isGraphic c && !(['"', '#', '<', '>', '?', '^', Char.ofNat 96, '\x7b', '\x7d'].contains c)

/-- A character that stands for itself in a query. -/
def keptInQuery (c : Char) : Bool := isGraphic c && !(['"', '#', '<', '>', '\''].contains c)

end TableFeed.Url
