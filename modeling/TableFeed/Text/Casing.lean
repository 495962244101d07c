/-!
# Letter case

Names of line modes and dialects are matched without regard to case, and so are keywords. All
of them are ASCII, so only the characters whose other case is ASCII matter:

* lowering maps `A`–`Z`; no letter outside ASCII has a lower case that occurs in a name;
* raising maps `a`–`z` and the few letters outside ASCII whose upper case is ASCII, among them
  the long s, the dotless i and the ligatures (`ﬁ` becomes `FI`).
-/

namespace TableFeed.Text

/-- A text with its ASCII capitals lowered. -/
def lowered (s : String) : String := String.ofList (s.toList.map Char.toLower)

/-- The upper case of one character, exact wherever that upper case is ASCII. -/
def raise (c : Char) : List Char :=
  if c.isLower then [c.toUpper]
  else if c.toNat < 0x80 then [c]
  else match c.toNat with
    | 0xDF => ['S', 'S']
    | 0x131 => ['I']
    | 0x17F => ['S']
    | 0xFB00 => ['F', 'F']
    | 0xFB01 => ['F', 'I']
    | 0xFB02 => ['F', 'L']
    | 0xFB03 => ['F', 'F', 'I']
    | 0xFB04 => ['F', 'F', 'L']
    | 0xFB05 => ['S', 'T']
    | 0xFB06 => ['S', 'T']
    | _ => [c]

/-- A text in upper case, as far as ASCII reaches. -/
def raised (s : String) : String := String.ofList (s.toList.flatMap raise)

end TableFeed.Text
