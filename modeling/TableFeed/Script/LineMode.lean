import TableFeed.Text.Casing

/-!
# Line modes

A line mode says what the segmenter carries across the end of a physical line.
-/

namespace TableFeed.Script

open TableFeed

/-- What happens to an open literal or comment at the end of a physical line. -/
inductive LineMode where
  /-- Every line starts outside literals and comments. -/
  | resetPerLine
  /-- Literals and block comments run on across lines. -/
  | continuous
  deriving DecidableEq, Repr, Inhabited

namespace LineMode

/-- The name under which a mode is written and configured. -/
def name : LineMode → String
  | resetPerLine => "reset-per-line"
  | continuous => "continuous"

/-- The mode with exactly this name. -/
def ofName? : String → Option LineMode
  | "reset-per-line" => some resetPerLine
  | "continuous" => some continuous
  | _ => none

/-- The mode that a user means: any case, and the short names too. -/
def ofText? (text : String) : Option LineMode :=
  match Text.lowered text with
  | "reset" | "reset-per-line" | "per-line" => some resetPerLine
  | "continuous" | "carry" => some continuous
  | _ => none

/-- What a user is told about a text that names no mode. -/
def invalidMessage (text : String) : String :=
  "Invalid line mode: " ++ text ++ ". Expected: reset-per-line, continuous"

@[simp] theorem ofName?_name (m : LineMode) : ofName? m.name = some m := by
  cases m <;> rfl

end LineMode

end TableFeed.Script
