import TableFeed.Proofs.Run.Progress

/-!
# What a run executes

A run that is live executes statement after statement until one stops it, and is asked before the
next one whether it was cancelled. The lines of a feed make no difference: reading lines one by one
runs the statements that all of them complete, and where the feed ends the pending one.

    line, line, line ──▶ statements completed ──▶ (cancelled?) ──▶ statement pending
-/

namespace TableFeed.Run

open TableFeed Service

namespace Processor

variable {m : Type → Type} [Monad m]

/-- Executes statements one after the other, up to the first one that stops the run. -/
def executeUntil (p : Processor m) : List String → m (List Execution)
  | [] => return []
  | x :: xs => do
    let e ← p.execute x false
    if e.stops then return [e]
    else do
      let es ← p.executeUntil xs
      return e :: es

variable [LawfulMonad m] (p : Processor m)

/-! ### Statements -/

theorem runStatement_of_live {s : Progress} (hs : s.Live) (x : String) :
    p.runStatement s x = s.after x <$> p.execute x false := by
  simp [runStatement, hs.1, hs.2]

omit [LawfulMonad m] in
theorem runStatement_of_not_live {s : Progress} (hs : ¬s.Live) (x : String) :
    p.runStatement s x = pure s.check := by
  unfold runStatement Progress.check
  split
  · rfl
  · split
    · rfl
    · simp_all [Progress.Live]

theorem runStatements_of_failure {s : Progress} (hs : s.failure.isSome = true)
    (xs : List String) : p.runStatements s xs = pure s := by
  induction xs with
  | nil => rfl
  | cons x xs ih => simp [runStatements, runStatement, hs, ih]

theorem runStatements_of_not_live {s : Progress} (hs : ¬s.Live) :
    ∀ xs : List String, p.runStatements s xs = pure (if xs = [] then s else s.check)
  | [] => rfl
  | x :: xs => by
    rw [runStatements, runStatement_of_not_live p hs, pure_bind,
      runStatements_of_failure p (Progress.isSome_failure_check hs)]
    rfl

theorem runStatements_append (s : Progress) (xs ys : List String) :
    p.runStatements s (xs ++ ys) = p.runStatements s xs >>= fun s => p.runStatements s ys := by
  induction xs generalizing s with
  | nil => simp [runStatements]
  | cons x xs ih => simp [runStatements, ih]

/-- A live run that is then asked whether it was cancelled. -/
theorem check_runStatements {s : Progress} (hs : s.Live) (xs : List String) :
    Progress.check <$> p.runStatements s xs =
      (fun es => (s.afterAll (xs.zip es)).check) <$> p.executeUntil xs := by
  induction xs generalizing s with
  | nil => simp [runStatements, executeUntil]
  | cons x xs ih =>
    rw [runStatements, runStatement_of_live p hs, executeUntil, map_bind, map_bind, bind_map_left]
    refine bind_congr fun e => ?_
    cases he : e.stops with
    | true =>
      have hl : ¬(s.after x e).Live := by simp [Progress.live_after hs, he]
      rw [runStatements_of_not_live p hl]
      split <;> simp
    | false =>
      have hl := (Progress.live_after hs x e).mpr he
      simp [ih hl]

/-- A live run of one more statement, or none. -/
theorem runStatements_toList {s : Progress} (hs : s.Live) (x : Option String) :
    p.runStatements s x.toList =
      (fun es => s.afterAll (x.toList.zip es)) <$> p.executeUntil x.toList := by
  cases x with
  | none => simp [runStatements, executeUntil]
  | some x =>
    simp only [Option.toList, runStatements, runStatement_of_live p hs, executeUntil, map_bind,
      bind_map_left]
    refine bind_congr fun e => ?_
    cases e.stops <;> simp

theorem executeUntil_append (xs ys : List String) :
    p.executeUntil (xs ++ ys) = p.executeUntil xs >>= fun es =>
      if es.any Execution.stops then pure es else (es ++ ·) <$> p.executeUntil ys := by
  induction xs with
  | nil => simp [executeUntil]
  | cons x xs ih =>
    simp only [List.cons_append, executeUntil, bind_assoc]
    refine bind_congr fun e => ?_
    cases he : e.stops with
    | true => simp [he]
    | false =>
      simp only [ih, bind_assoc, Bool.false_eq_true, if_false]
      refine bind_congr fun es => ?_
      simp only [pure_bind, List.any_cons, he, Bool.false_or]
      cases es.any Execution.stops <;> simp

/-! ### Feeds -/

omit [LawfulMonad m] in
theorem runFeed_of_not_live {s : Progress} (hs : ¬s.Live) (g : Script.Segmenter)
    (feed : Script.Feed) : p.runFeed g s feed = pure s.check := by
  have hd : s.failure.isSome = true ∨ s.failure = none ∧ s.cancelled = true := by
    cases hf : s.failure <;> simp_all [Progress.Live]
  rcases hd with hf | ⟨hf, hc⟩
  · cases feed <;> simp [runFeed, Progress.check, hf]
  · cases feed <;> simp [runFeed, Progress.check, hf, hc]

/-- Where the feed ends, the run is asked once more before the pending statement. -/
theorem runFeed_nil (g : Script.Segmenter) (s : Progress) :
    p.runFeed g s [] = p.runStatements s.check g.finish.toList := by
  by_cases hs : s.Live
  · simp [runFeed, Progress.check_of_live hs, hs.1, hs.2]
  · rw [runFeed_of_not_live p hs, runStatements_of_failure p (Progress.isSome_failure_check hs)]

omit [LawfulMonad m] in
/-- A failure to read breaks off a run that is not cancelled. -/
theorem runFeed_error (g : Script.Segmenter) (s : Progress) (text : String) (feed : Script.Feed) :
    p.runFeed g s (.error text :: feed) = pure (s.check.breakOff (.io text)) := by
  by_cases hs : s.Live
  · simp [runFeed, Progress.breakOff, Progress.check_of_live hs, hs.1, hs.2]
  · simp [runFeed_of_not_live p hs, Progress.breakOff, Progress.isSome_failure_check hs]

/-- Reading lines runs the statements that all of them complete. -/
theorem runFeed_lines (g : Script.Segmenter) (s : Progress) (lines : List String)
    (feed : Script.Feed) :
    p.runFeed g s (lines.map .ok ++ feed) =
      p.runStatements s (g.pushLines lines).1 >>= fun s =>
        p.runFeed (g.pushLines lines).2 s feed := by
  induction lines generalizing g s with
  | nil => simp [Script.Segmenter.pushLines, runStatements]
  | cons line lines ih =>
    by_cases hs : s.Live
    · simp [runFeed, hs.1, hs.2, Script.Segmenter.pushLines, runStatements_append, ih]
    · rw [runFeed_of_not_live p hs, runStatements_of_not_live p hs, pure_bind]
      split
      · rw [runFeed_of_not_live p hs]
      · rw [runFeed_of_not_live p (Progress.not_live_check hs), Progress.check_check]

/-- A live run over lines only: the statements completed are executed up to the first that stops
the run, and the pending one if the run is live then. -/
theorem runFeed_of_live {s : Progress} (hs : s.Live) (g : Script.Segmenter) (lines : List String) :
    p.runFeed g s (lines.map .ok) =
      p.executeUntil (g.pushLines lines).1 >>= fun es =>
        p.runStatements (s.afterAll ((g.pushLines lines).1.zip es)).check
          (g.pushLines lines).2.finish.toList := by
  have hl := runFeed_lines p g s lines []
  simp only [List.append_nil, runFeed_nil] at hl
  have hc := bind_map_left Progress.check (p.runStatements s (g.pushLines lines).1) fun s =>
    p.runStatements s (g.pushLines lines).2.finish.toList
  rw [hl, ← hc, check_runStatements p hs, bind_map_left]

/-- A live run over lines behind which reading fails: the statements completed are executed, and
nothing else. -/
theorem runFeed_error_of_live {s : Progress} (hs : s.Live) (g : Script.Segmenter)
    (lines : List String) (text : String) :
    p.runFeed g s (lines.map .ok ++ [.error text]) =
      (fun es => (s.afterAll ((g.pushLines lines).1.zip es)).check.breakOff (.io text)) <$>
        p.executeUntil (g.pushLines lines).1 := by
  have hc := congrArg (Functor.map fun s : Progress => s.breakOff (.io text))
    (check_runStatements p hs (g.pushLines lines).1)
  simp only [Functor.map_map] at hc
  rw [runFeed_lines, ← hc, map_eq_pure_bind]
  exact bind_congr fun s => runFeed_error p _ s text []

end Processor

end TableFeed.Run
