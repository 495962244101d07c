import TableFeed.Proofs.Run.Exchange
import TableFeed.Proofs.Run.Stateful
import TableFeed.Service.Scripted

/-!
# Cancelled runs

Behind a call that cancels, or whose handler gives up, no other call is made. Whether the run is
broken off is another matter: the pending statement at the end of a script is the last thing that is
done, and nobody asks behind it whether the run was cancelled.

    a; b;   c            cancelled in a or b: broken off        in c: an outcome like any other
-/

namespace TableFeed.Run

open TableFeed Service

namespace Processor

variable {σ : Type} (p : Processor (StateM σ))

theorem calls_of_stops (xs : List String) (st : σ) :
    ∀ e ∈ (inTurn (p.execute · false) xs st).1, e.stops = true → e.call.isSome = true := by
  induction xs generalizing st with
  | nil => simp
  | cons x xs ih =>
    rw [inTurn_cons, List.forall_mem_cons]
    exact ⟨call_of_stops p, ih _⟩

/-- A run over a text that nothing stops has an outcome for every statement. -/
theorem run_ofText_of_goesOn {script : String} {st st' : σ} {es : List Execution}
    (hi : inTurn (p.execute · false) (Script.splitStatements p.mode script) st = (es, st'))
    (he : ∀ e ∈ es, e.stops = false) :
    ∃ progress : Progress, (p.run (.ofText script) false).run st = (progress, st') ∧
      progress.result = .ok (((Script.splitStatements p.mode script).zip es).mapIdx fun i x =>
        x.2.outcome i x.1) ∧
      progress.calls = es.filterMap Execution.call := by
  have hr : (p.executeUntil (Script.splitStatements p.mode script)).run st = (es, st') := by
    rw [← hi]
    exact executeUntil_run_eq_inTurn p (by rwa [hi])
  have hl := (executeUntil_run p (Script.splitStatements p.mode script) st).1.length_le
  have hrun := run_ofText_run p script st
  simp only [hr] at hl hrun
  refine ⟨_, hrun, Progress.result_ending_eq_ok hl _ ?_, Progress.calls_ending hl _⟩
  rw [Ne, Progress.result_ending_eq_error_iff hl _ ⟨rfl, rfl⟩]
  rintro (⟨e, hm, hg⟩ | ⟨e, hm, hc⟩)
  · simpa [Execution.stops, Execution.gaveUp_iff.mpr hg] using he e hm
  · simpa [Execution.stops, hc] using he e (List.mem_of_mem_take hm)

/-- What a run over a text executes, and how it ends. Nothing is executed in a run that is cancelled
before it starts; otherwise the statements up to the first whose call cancels or gives up. The run
is broken off exactly if it was cancelled before it started, or a handler gave up, or a call for a
statement that its lines complete cancelled. -/
theorem run_cancellation (script : String) (cancelled : Bool) (st : σ) :
    ∃ (progress : Progress) (st' : σ) (es : List Execution),
      (p.run (.ofText script) cancelled).run st = (progress, st') ∧
      inTurn (p.execute · false) ((Script.splitStatements p.mode script).take es.length) st =
        (es, st') ∧
      progress.calls = es.filterMap Execution.call ∧
      (∀ e ∈ es, e.stops = true → e.call.isSome = true) ∧
      (cancelled = true → es = []) ∧
      (cancelled = false → UpToStop (Script.splitStatements p.mode script) es) ∧
      (progress.result = .error .cancelled ↔
        cancelled = true ∨ (∃ e ∈ es, e.result = .error (.handler .cancelled)) ∨
          ∃ e ∈ es.take (Script.completed p.mode (Text.lines script)).length, e.cancels = true) ∧
      (progress.result ≠ .error .cancelled → progress.result =
        .ok (((Script.splitStatements p.mode script).zip es).mapIdx fun i x =>
          x.2.outcome i x.1)) := by
  cases cancelled with
  | true =>
    have hn : ¬({ cancelled := true } : Progress).Live := by simp [Progress.Live]
    refine ⟨_, st, [], congrFun (runFeed_of_not_live p hn _ _) st, rfl, rfl, ?_, ?_, ?_, ?_, ?_⟩
    · simp
    · simp
    · simp
    · simp [Progress.result_eq_error_iff, Progress.failure_check]
    · intro h
      exact absurd (Progress.result_eq_error_iff.mpr rfl) h
  | false =>
    have hs : ({} : Progress).Live := ⟨rfl, rfl⟩
    obtain ⟨hu, hm⟩ := executeUntil_run p (Script.splitStatements p.mode script) st
    have hc := calls_of_stops p ((Script.splitStatements p.mode script).take
      ((p.executeUntil (Script.splitStatements p.mode script)).run st).1.length) st
    rw [hm] at hc
    refine ⟨_, _, _, run_ofText_run p script st, hm, ?_, hc, ?_, fun _ => hu, ?_, ?_⟩
    · exact Progress.calls_ending hu.length_le _
    · simp
    · simpa using Progress.result_ending_eq_error_iff hu.length_le _ hs
    · exact Progress.result_ending_eq_ok hu.length_le _

-- Cancelled by the call for the statement pending at the end, or by one that a line completes.
example :
    let p : Processor (StateM Counts) :=
      { dialect := .generic, mode := .resetPerLine
        handlers := [scripted 0 "cancels" .all [.cancel "done"]] }
    ((p.run (.ofText "DROP TABLE a") false).run []).1.result =
        .ok [{ index := 0, statement := "DROP TABLE a", status := 200, body := "done" }] ∧
      ((p.run (.ofText "DROP TABLE a;") false).run []).1.result = .error .cancelled := by
  decide +kernel

end Processor

end TableFeed.Run
