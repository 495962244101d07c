import TableFeed.Proofs.Run.Cancellation
import TableFeed.Service.Scripted

/-!
# Runs over input that cannot be read

A run fails to read exactly if its input does: at the end, or at a line that is not UTF-8. By then
the statements that the good lines complete have been executed. What is pending behind them, and
everything behind the failure, is not.

    a;  b;  c      good lines, c pending
    ??             not UTF-8: a and b were executed, c is not
    d;
-/

namespace TableFeed.Run

open TableFeed Service

variable {σ : Type}

namespace Processor

variable (p : Processor (StateM σ))

theorem goesOn_inTurn (hp : ∀ h ∈ p.handlers, Steady h) (xs : List String) (st : σ) :
    ∀ e ∈ (inTurn (p.execute · false) xs st).1, e.stops = false := by
  induction xs generalizing st with
  | nil => simp
  | cons x xs ih =>
    rw [inTurn_cons, List.forall_mem_cons]
    exact ⟨stops_execute hp x st, ih _⟩

/-- A run over lines only does not fail to read. -/
theorem result_ne_io_of_lines {i : Script.Input} {lines : List String}
    (hf : i.feed = lines.map .ok) (st : σ) (text : String) :
    ((p.run i false).run st).1.result ≠ .error (.io text) := by
  have hs : ({} : Progress).Live := ⟨rfl, rfl⟩
  have hl := (executeUntil_run p (((Script.Segmenter.start p.mode).pushLines lines).1 ++
    ((Script.Segmenter.start p.mode).pushLines lines).2.finish.toList) st).1.length_le
  rw [run, hf, runFeed_lines_run p hs, Ne, Progress.result_eq_error_iff,
    Progress.failure_ending hl _ hs]
  split <;> simp

/-- Where reading fails, the statements that the good lines complete are executed, and the run
fails to read. -/
theorem run_of_fails (hp : ∀ h ∈ p.handlers, Steady h) {i : Script.Input} (hi : i.Fails) (st : σ) :
    (∃ text, ((p.run i false).run st).1.result = .error (.io text)) ∧
      ∃ es, inTurn (p.execute · false) (Script.completed p.mode i.goodLines) st =
          (es, ((p.run i false).run st).2) ∧
        ((p.run i false).run st).1.calls = es.filterMap Execution.call := by
  have hs : ({} : Progress).Live := ⟨rfl, rfl⟩
  have hg := goesOn_inTurn p hp (Script.completed p.mode i.goodLines) st
  have hx := executeUntil_run_eq_inTurn p hg
  have hl : (inTurn (p.execute · false) (Script.completed p.mode i.goodLines) st).1.length =
    (Script.completed p.mode i.goodLines).length := length_inTurn _ _ _
  generalize inTurn (p.execute · false) (Script.completed p.mode i.goodLines) st = r at *
  obtain ⟨es, st'⟩ := r
  have hz : ((Script.completed p.mode i.goodLines).zip es).map Prod.snd = es :=
    List.map_snd_zip (Nat.le_of_eq hl)
  have hlive := (Progress.live_afterAll ((Script.completed p.mode i.goodLines).zip es) hs).mpr
    (by rwa [hz])
  obtain ⟨text, hf⟩ := Script.Input.feed_of_fails hi
  have hrun : (p.run i false).run st =
      ((Progress.afterAll {} ((Script.completed p.mode i.goodLines).zip es)).stop (.io text),
        st') := by
    rw [run, hf, runFeed_error_of_live p hs, map_run, ← Script.completed, hx,
      Progress.check_of_live hlive, Progress.breakOff, if_neg (by simp [hlive.1])]
  have hc := Progress.calls_afterAll ((Script.completed p.mode i.goodLines).zip es) {}
  rw [hz] at hc
  rw [hrun]
  exact ⟨⟨text, rfl⟩, es, rfl, hc⟩

/-- A run fails to read exactly if its input does, which at the end of the input is to say that the
bytes are not UTF-8. It has then made the calls of the statements that the good lines complete. -/
theorem run_input (hp : ∀ h ∈ p.handlers, Steady h) (i : Script.Input) (st : σ) :
    ∃ (progress : Progress) (st' : σ),
      (p.run i false).run st = (progress, st') ∧
      ((∃ text, progress.result = .error (.io text)) ↔ i.Fails) ∧
      (i.failure = none → (i.Fails ↔ ¬Text.IsUtf8 i.bytes)) ∧
      ((∃ text, progress.result = .error (.io text)) →
        ∃ es, inTurn (p.execute · false) (Script.completed p.mode i.goodLines) st = (es, st') ∧
          progress.calls = es.filterMap Execution.call) := by
  have hio : (∃ text, ((p.run i false).run st).1.result = .error (.io text)) ↔ i.Fails := by
    constructor
    · rintro ⟨text, ht⟩
      refine Classical.byContradiction fun hn => ?_
      obtain ⟨lines, hf⟩ := Script.Input.feed_of_not_fails hn
      exact result_ne_io_of_lines p hf st text ht
    · exact fun hi => (run_of_fails p hp hi st).1
  exact ⟨_, _, rfl, hio, Script.Input.fails_iff, fun h => (run_of_fails p hp (hio.mp h) st).2⟩

end Processor

/-- Two good lines, the second one with a statement pending, and then a line that is not UTF-8. -/
def brokenBytes : List UInt8 :=
  Text.encode "DROP TABLE a;\r\nDROP TABLE b\n".toList ++ [0xFF, 10] ++
    Text.encode "; DROP TABLE c;\n".toList

/-- Handlers that never cancel. -/
def steadyHandlers : List (Handler (StateM Counts)) := [scripted 0 "answers" .all []]

theorem run_brokenBytes :
    (∀ h ∈ steadyHandlers, Steady h) ∧
    ∃ (progress : Progress) (st' : Counts),
      (Processor.run { dialect := .generic, mode := .continuous, handlers := steadyHandlers }
        { bytes := brokenBytes } false).run [] = (progress, st') ∧
      (∃ text, progress.result = .error (.io text)) ∧
      progress.calls = [{ handler := "answers", model := .dropTable { tables := ["a"] } }] := by
  have hh : ∀ h ∈ steadyHandlers, Steady h := by
    intro h hm x cancelled st
    obtain rfl := List.mem_singleton.mp hm
    exact ⟨rfl, nofun⟩
  have hu : ¬Text.IsUtf8 brokenBytes := by
    unfold Text.IsUtf8
    decide +kernel
  obtain ⟨progress, st', hrun, hio, hf, hcalls⟩ :=
    Processor.run_input { dialect := .generic, mode := .continuous, handlers := steadyHandlers } hh
      { bytes := brokenBytes } []
  have hfails := hio.mpr ((hf rfl).mpr hu)
  obtain ⟨es, hes, hc⟩ := hcalls hfails
  refine ⟨hh, progress, st', hrun, hfails, ?_⟩
  have he := congrArg Prod.fst hes
  subst he
  rw [hc]
  decide +kernel

end TableFeed.Run
