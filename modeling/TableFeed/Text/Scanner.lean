import TableFeed.Text.Blank

/-!
# Scanners

A scanner takes characters from the front of a text and gives a result, or fails. It is a
function of the characters that are left, so a scanner that failed has taken nothing.

    scanner : characters ⟶ result and the characters behind it, or failure
-/

namespace TableFeed.Text

/-- A scanner. -/
abbrev Scanner (α : Type) : Type := StateT (List Char) Option α

namespace Scanner

/-- The characters that are left. -/
def rest : Scanner (List Char) := get

/-- The next character, which is left in place. -/
def peek : Scanner (Option Char) := do return (← rest).head?

/-- Take this character, which must come next. -/
def mark (c : Char) : Scanner Unit := fun
  | d :: cs => if d = c then some ((), cs) else none
  | [] => none

/-- Take these characters, which must come next. -/
def marks : List Char → Scanner Unit
  | [] => return
  | c :: cs => do
    mark c
    marks cs

/-- Take a character for which `p` holds. -/
def charWhere (p : Char → Bool) : Scanner Char := fun
  | c :: cs => if p c then some (c, cs) else none
  | [] => none

/-- Take the characters up to the first one for which `p` does not hold. -/
def span (p : Char → Bool) : Scanner (List Char) := fun cs =>
  some (cs.takeWhile p, cs.dropWhile p)

/-- What `p` gives, or nothing if it fails. -/
def attempt {α : Type} (p : Scanner α) : Scanner (Option α) := fun cs =>
  match p cs with
  | some (a, cs) => some (some a, cs)
  | none => some (none, cs)

/-- Take this character, if it comes next. -/
def symbol (c : Char) : Scanner Bool := do return (← attempt (mark c)).isSome

/-- Take these characters, if they come next. -/
def word (cs : List Char) : Scanner Bool := do return (← attempt (marks cs)).isSome

/-- The first of two scanners that does not fail. -/
def orElse {α : Type} (p q : Scanner α) : Scanner α := fun cs =>
  match p cs with
  | some r => some r
  | none => q cs

/-- Results of `step`, at most `n` of them, until it gives none. -/
def collectAtMost {α : Type} (step : Scanner (Option α)) : Nat → Scanner (List α)
  | 0 => return []
  | n + 1 => do
    match ← step with
    | some a => return a :: (← collectAtMost step n)
    | none => return []

/-- Results of `step` until it gives none. Each of them must take a character. -/
def collect {α : Type} (step : Scanner (Option α)) : Scanner (List α) := do
  collectAtMost step ((← rest).length + 1)

/-- Pass over blanks. -/
def blanks : Scanner Unit := modify trimStart

/-- One to `width` digits. -/
def digits (width : Nat) : Scanner (List Char) := fun cs =>
  let found := (cs.take width).takeWhile Char.isDigit
  if found.isEmpty then none else some (found, cs.drop found.length)

/-- Exactly `width` digits. -/
def exactDigits (width : Nat) : Scanner (List Char) := fun cs =>
  let found := cs.take width
  if found.length = width ∧ found.all Char.isDigit then some (found, cs.drop width) else none

/-- The value of digits. -/
def valueOf (ds : List Char) : Nat := ds.foldl (fun n c => n * 10 + (c.toNat - 48)) 0

/-- What a scanner gives for a whole text. -/
def runAll {α : Type} (p : Scanner α) (cs : List Char) : Option α :=
  match p cs with
  | some (a, []) => some a
  | _ => none

end Scanner

end TableFeed.Text
