/-!
# Blank characters

A character is *blank* when it has the Unicode property `White_Space`. Texts are trimmed by
dropping the blanks at both ends; what lies between two characters that are not blank is kept.

    "  a b\t"   ──trim──▶   "a b"

What is to hold of every character of a text, being blank or not, is decided along the text.
-/

namespace TableFeed.Text

/-- The characters with the Unicode property `White_Space`. -/
def isBlank (c : Char) : Bool :=
  let n := c.toNat
  (9 ≤ n && n ≤ 13) || n == 0x20 || n == 0x85 || n == 0xA0 || n == 0x1680 ||
    (0x2000 ≤ n && n ≤ 0x200A) || n == 0x2028 || n == 0x2029 || n == 0x202F || n == 0x205F ||
    n == 0x3000

/-- The characters without the blanks before the first character that is not blank. -/
def trimStart (cs : List Char) : List Char := cs.dropWhile isBlank

/-- The characters without the blanks after the last character that is not blank. -/
def trimEnd (cs : List Char) : List Char := (cs.reverse.dropWhile isBlank).reverse

/-- The characters without the blanks at both ends. -/
def trim (cs : List Char) : List Char := trimEnd (trimStart cs)

@[simp] theorem trim_nil : trim [] = [] := rfl

/-- A text without the blanks at both ends. -/
def trimmed (s : String) : String := String.ofList (trim s.toList)

/-- The first run of characters of a text that are not blank; empty when all are blank. -/
def firstWord (s : String) : String :=
  String.ofList ((trimStart s.toList).takeWhile fun c => !isBlank c)

/-! ### Deciding along a text -/

/-- What holds of every character of a text is decided by looking at those characters, rather than
at all the characters there are. -/
instance (priority := 2000) decidableForallMem (p : Char → Prop) [DecidablePred p]
    (cs : List Char) : Decidable (∀ c ∈ cs, p c) :=
  List.decidableBAll p cs

end TableFeed.Text
