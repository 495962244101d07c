/-!
# Run identifiers

A run is identified by 32 hexadecimal digits. They are written in five groups; they may also be
read without the hyphens, in braces, or behind `urn:uuid:`.

    6f2c1f3e-8a51-4d0c-9a3e-000000000001
-/

namespace TableFeed.Run

/-- The identifier of a run: its digits in lower case. -/
structure RunId where
  digits : List Char
  deriving DecidableEq, Repr

namespace RunId

/-- A hexadecimal digit in lower case. -/
def digit? (c : Char) : Option Char :=
  let c := c.toLower
  if c.isDigit || ('a' ≤ c && c ≤ 'f') then some c else none

/-- The identifier that some digits are. -/
def ofDigits? (cs : List Char) : Option RunId := do
  let digits ← cs.mapM digit?
  if digits.length = 32 then some { digits } else none

/-- The digits of five groups with hyphens between them. -/
def ungrouped? (cs : List Char) : Option (List Char) :=
  let part (n k : Nat) := (cs.drop n).take k
  if cs.length = 36 ∧ [8, 13, 18, 23].all fun n => cs[n]? = some '-' then
    some (part 0 8 ++ part 9 4 ++ part 14 4 ++ part 19 4 ++ part 24 12)
  else none

/-- Where the groups of a text begin: behind a brace or behind `urn:uuid:`, or right away. -/
def unwrapped (cs : List Char) : List Char :=
  if cs.length = 38 ∧ cs.head? = some '\x7b' ∧ cs.getLast? = some '\x7d' then cs.tail.dropLast
  else if cs.length = 45 ∧ cs.take 9 = "urn:uuid:".toList then cs.drop 9
  else cs

/-- The identifier that a text is. -/
def ofText? (text : String) : Option RunId :=
  let cs := text.toList
  if cs.length = 32 then ofDigits? cs else (ungrouped? (unwrapped cs)).bind ofDigits?

/-- An identifier in five groups. -/
def render (i : RunId) : String :=
  let group (n k : Nat) := String.ofList ((i.digits.drop n).take k)
  "-".intercalate [group 0 8, group 8 4, group 12 4, group 16 4, group 20 12]

end RunId

end TableFeed.Run
