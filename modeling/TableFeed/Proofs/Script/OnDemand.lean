import TableFeed.Script.Statements

/-!
# Statements on demand are all statements

Asked until nothing is left, statements on demand are the statements of the lines: those ready at
first, and those of a segmenter that reads every line and is then finished.

    ready ++ (segmenter ──lines──▶ statements) ++ pending
-/

namespace TableFeed.Script

open TableFeed

namespace Statements

/-- What is still to be handed out: the statements ready, then those of the lines. -/
def remaining (i : Statements) : List String :=
  match i.segmenter with
  | none => i.ready
  | some g =>
    i.ready ++ ((g.pushLines i.source.remaining).1 ++
      (g.pushLines i.source.remaining).2.finish.toList)

/-- Nothing is skipped where lines are fetched. -/
theorem remaining_fetch (g : Segmenter) (asked : Nat) (lines : List String) :
    (fetch g asked lines).1.toList ++ (fetch g asked lines).2.remaining =
      (g.pushLines lines).1 ++ (g.pushLines lines).2.finish.toList := by
  fun_induction fetch g asked lines with
  | case1 g asked => simp [remaining, Segmenter.pushLines]
  | case2 g asked line lines g' h ih => simp [Segmenter.pushLines, h, ih]
  | case3 g asked line lines s ready g' h => simp [remaining, Segmenter.pushLines, h]

/-- A line is fetched in vain only where no line is left. -/
theorem remaining_of_fetch_eq_none {g : Segmenter} {asked : Nat} {lines : List String}
    (h : (fetch g asked lines).1 = none) : (fetch g asked lines).2.remaining = [] := by
  fun_induction fetch g asked lines with
  | case1 g asked => rfl
  | case2 g asked line lines g' _ ih => exact ih h
  | case3 g asked line lines s ready g' _ => cases h

theorem remaining_next (i : Statements) : i.next.1.toList ++ i.next.2.remaining = i.remaining := by
  obtain ⟨source, segmenter, ready⟩ := i
  cases ready with
  | cons s ready => cases segmenter <;> simp [next, remaining]
  | nil =>
    cases segmenter with
    | none => simp [next, remaining]
    | some g => exact remaining_fetch g source.asked source.remaining

theorem remaining_of_next_eq_none {i : Statements} (h : i.next.1 = none) : i.remaining = [] := by
  have hr := remaining_next i
  obtain ⟨source, segmenter, ready⟩ := i
  cases ready with
  | cons s ready => cases h
  | nil =>
    cases segmenter with
    | none => rfl
    | some g =>
      rw [← hr, h]
      exact remaining_of_fetch_eq_none h

theorem toList_eq_remaining (i : Statements) : i.toList = i.remaining := by
  fun_induction toList i with
  | case1 i j h =>
    exact (remaining_of_next_eq_none (congrArg Prod.fst h)).symm
  | case2 i s j h ih =>
    rw [ih, ← remaining_next i, h]
    rfl

end Statements

/-- The statements that lines complete. -/
def completed (mode : LineMode) (lines : List String) : List String :=
  ((Segmenter.start mode).pushLines lines).1

/-- The statement that is pending behind lines. -/
def pending (mode : LineMode) (lines : List String) : Option String :=
  ((Segmenter.start mode).pushLines lines).2.finish

/-- The statements of a script are those that its lines complete, and the pending one. -/
theorem splitStatements_eq (mode : LineMode) (script : String) :
    splitStatements mode script =
      completed mode (Text.lines script) ++ (pending mode (Text.lines script)).toList :=
  Statements.toList_eq_remaining _

end TableFeed.Script
