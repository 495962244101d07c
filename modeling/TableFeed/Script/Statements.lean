import TableFeed.Script.Segmenter

/-!
# Statements on demand

The statements of a script can be asked for one at a time. A line is fetched only when every
statement completed so far has been handed out, and once the lines have ended the source is
not asked again.

    source ──line──▶ segmenter ──statements──▶ ready ──one at a time──▶ caller
-/

namespace TableFeed.Script

/-- Lines yet to be read, and how often a line has been asked for. -/
structure LineSource where
  /-- The lines not yet handed out. -/
  remaining : List String
  /-- The number of times the source was asked. -/
  asked : Nat := 0
  deriving DecidableEq, Repr

/-- Statements on demand over a source of lines. -/
structure Statements where
  /-- Where lines come from. -/
  source : LineSource
  /-- The segmenter, until the last line has been read. -/
  segmenter : Option Segmenter
  /-- Statements completed but not yet handed out. -/
  ready : List String := []
  deriving DecidableEq, Repr

namespace Statements

/-- The statements of `lines`. -/
def start (lines : List String) (mode : LineMode) : Statements :=
  { source := { remaining := lines }, segmenter := some (Segmenter.start mode) }

/-- Fetch lines until one completes a statement or none is left. -/
def fetch (g : Segmenter) (asked : Nat) : List String → Option String × Statements
  | [] => (g.finish, { source := ⟨[], asked + 1⟩, segmenter := none })
  | line :: lines =>
    match g.pushLine line with
    | ([], g) => fetch g (asked + 1) lines
    | (s :: ready, g) => (some s, { source := ⟨lines, asked + 1⟩, segmenter := some g, ready })

/-- The next statement, or none when all have been handed out. -/
def next (i : Statements) : Option String × Statements :=
  match i.ready with
  | s :: ready => (some s, { i with ready })
  | [] =>
    match i.segmenter with
    | none => (none, i)
    | some g => fetch g i.source.asked i.source.remaining

/-- The answers to `n` calls of `next`, and what is left after them. -/
def take (i : Statements) : Nat → List (Option String) × Statements
  | 0 => ([], i)
  | n + 1 =>
    let (answer, i) := i.next
    let (answers, i) := i.take n
    (answer :: answers, i)

/-- How much there is to read: the lines, and what is pending behind them. -/
def unread (i : Statements) : Nat :=
  match i.segmenter with
  | none => 0
  | some _ => i.source.remaining.length + 1

theorem unread_fetch_lt (g : Segmenter) (asked : Nat) (lines : List String) :
    (fetch g asked lines).2.unread < lines.length + 1 := by
  fun_induction fetch g asked lines with
  | case1 g asked => simp [unread]
  | case2 g asked line lines g' h ih => exact Nat.lt_succ_of_lt ih
  | case3 g asked line lines s ready g' h => simp [unread]

/-- Every statement that is handed out leaves less to read or fewer statements ready. -/
theorem next_lt {i j : Statements} {s : String} (h : i.next = (some s, j)) :
    Prod.Lex (· < ·) (· < ·) (j.unread, j.ready.length) (i.unread, i.ready.length) := by
  obtain ⟨source, segmenter, ready⟩ := i
  cases ready with
  | cons r ready =>
    obtain ⟨-, rfl⟩ : r = s ∧ _ = j := by simpa [next] using h
    exact Prod.Lex.right _ (Nat.lt_succ_self _)
  | nil =>
    cases segmenter with
    | none => simp [next] at h
    | some g =>
      have hj : (fetch g source.asked source.remaining).2 = j := congrArg Prod.snd h
      subst hj
      exact Prod.Lex.left _ _ (unread_fetch_lt g source.asked source.remaining)

/-- All statements still to be handed out. -/
def toList (i : Statements) : List String :=
  match _h : i.next with
  | (none, _) => []
  | (some s, j) => s :: j.toList
termination_by (i.unread, i.ready.length)
decreasing_by exact next_lt (by assumption)

end Statements

/-- The statements of a script held in memory. -/
def splitStatements (mode : LineMode) (script : String) : List String :=
  (Statements.start (Text.lines script) mode).toList

end TableFeed.Script
