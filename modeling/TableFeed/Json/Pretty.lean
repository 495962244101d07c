import TableFeed.Json.Basic

/-!
# Printing JSON

Values are printed over several lines, each item and each field on a line of its own, indented
by two blanks for each value that is open. In texts the quote, the backslash and the control
characters are escaped, the commonest ones by a letter.
-/

namespace TableFeed.Json

/-- A digit in lower case hexadecimal. -/
def hexDigit (n : Nat) : Char := Nat.digitChar n

/-- A character as it stands in a text. -/
def escapedChar (c : Char) : List Char :=
  if c = '"' then ['\\', '"']
  else if c = '\\' then ['\\', '\\']
  else if c = '\n' then ['\\', 'n']
  else if c = '\r' then ['\\', 'r']
  else if c = '\t' then ['\\', 't']
  else if c.toNat = 8 then ['\\', 'b']
  else if c.toNat = 12 then ['\\', 'f']
  else if c.toNat < 32 then
    ['\\', 'u', '0', '0', hexDigit (c.toNat / 16), hexDigit (c.toNat % 16)]
  else [c]

/-- A text in quotes. -/
def quoted (s : String) : String :=
  String.ofList ('"' :: s.toList.flatMap escapedChar ++ ['"'])

/-- A number. -/
def numberText (mantissa : Int) (places : Nat) : String :=
  if places = 0 then toString mantissa
  else
    let cs := Nat.toDigits 10 mantissa.natAbs
    let padded := List.replicate (places + 1 - cs.length) '0' ++ cs
    let whole := padded.take (padded.length - places)
    let fraction := padded.drop (padded.length - places)
    (if mantissa < 0 then "-" else "") ++ String.ofList (whole ++ '.' :: fraction)

/-- The start of a line inside `depth` values. -/
def indent (depth : Nat) : String := "\n" ++ String.ofList (List.replicate (2 * depth) ' ')

/-- Entries between two marks, one on each line. -/
def enclose (opening closing : String) (depth : Nat) (entries : List String) : String :=
  if entries.isEmpty then opening ++ closing
  else
    opening ++ ",".intercalate (entries.map (indent (depth + 1) ++ ·)) ++ indent depth ++ closing

mutual

/-- A value inside `depth` others. -/
def prettyAt (depth : Nat) : Json → String
  | .null => "null"
  | .bool true => "true"
  | .bool false => "false"
  | .number m e => numberText m e
  | .text s => quoted s
  | .array items => enclose "[" "]" depth (prettyItems (depth + 1) items)
  | .object fields => enclose "\x7b" "\x7d" depth (prettyFields (depth + 1) fields)

/-- Several values. -/
def prettyItems (depth : Nat) : List Json → List String
  | [] => []
  | v :: vs => prettyAt depth v :: prettyItems depth vs

/-- Several fields. -/
def prettyFields (depth : Nat) : List (String × Json) → List String
  | [] => []
  | (key, v) :: fields => (quoted key ++ ": " ++ prettyAt depth v) :: prettyFields depth fields

end

/-- A value over several lines. -/
def pretty (v : Json) : String := prettyAt 0 v

end TableFeed.Json
