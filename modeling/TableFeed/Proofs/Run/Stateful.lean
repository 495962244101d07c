import TableFeed.Proofs.Run.Executions
import TableFeed.Proofs.Script.Feed
import TableFeed.Proofs.Script.OnDemand

/-!
# Runs with handlers that keep a state

With handlers that keep a state, a run is a function of the state before it. The statements that
are executed are the first ones of a script: all of them, or those up to the first that stops the
run. Nothing else touches the state.

    statement 1   statement 2   ...   statement k   │   statement k + 1   ...
     goes on       goes on             stops        │    not executed
-/

namespace TableFeed.Run

open TableFeed Service

variable {σ : Type}

/-! ### One after the other -/

theorem bind_run {α β : Type} (x : StateM σ α) (f : α → StateM σ β) (st : σ) :
    (x >>= f).run st = (f (x.run st).1).run (x.run st).2 := rfl

theorem map_run {α β : Type} (f : α → β) (x : StateM σ α) (st : σ) :
    (f <$> x).run st = (f (x.run st).1, (x.run st).2) := rfl

section InTurn

variable {α β : Type} (f : α → StateM σ β)

/-- What an action gives for several things in turn, and the state behind the last one. -/
def inTurn (xs : List α) (st : σ) : List β × σ := (xs.mapM f).run st

@[simp] theorem inTurn_nil (st : σ) : inTurn f [] st = ([], st) := rfl

@[simp] theorem inTurn_cons (x : α) (xs : List α) (st : σ) :
    inTurn f (x :: xs) st =
      (((f x).run st).1 :: (inTurn f xs ((f x).run st).2).1, (inTurn f xs ((f x).run st).2).2) := by
  rw [inTurn, List.mapM_cons]
  rfl

@[simp] theorem length_inTurn (xs : List α) (st : σ) : (inTurn f xs st).1.length = xs.length := by
  induction xs generalizing st with
  | nil => rfl
  | cons x xs ih => simp [ih]

end InTurn

/-! ### Executions up to a stop -/

/-- Executions of the first ones of some statements, up to the first that stops the run. -/
structure UpToStop (xs : List String) (es : List Execution) : Prop where
  length_le : es.length ≤ xs.length
  goesOn : ∀ e ∈ es.dropLast, e.stops = false
  stops : es.length < xs.length → ∃ e ∈ es.getLast?, e.stops = true

theorem UpToStop.nil : UpToStop [] [] := ⟨Nat.le_refl _, by simp, by simp⟩

theorem UpToStop.single (x : String) (xs : List String) {e : Execution} (he : e.stops = true) :
    UpToStop (x :: xs) [e] := ⟨by simp, by simp, fun _ => ⟨e, by simp, he⟩⟩

theorem UpToStop.cons {xs : List String} {es : List Execution} (h : UpToStop xs es) (x : String)
    {e : Execution} (he : e.stops = false) : UpToStop (x :: xs) (e :: es) := by
  refine ⟨by simpa using h.length_le, ?_, ?_⟩
  · cases es with
    | nil => simp
    | cons e' es => simpa [he] using h.goesOn
  · intro hl
    obtain ⟨e', hm, hs⟩ := h.stops (by simpa using hl)
    cases es with
    | nil => simp at hm
    | cons => exact ⟨e', by simpa using hm, hs⟩

/-- Without a stop, all statements were executed. -/
theorem UpToStop.length_eq {xs : List String} {es : List Execution} (h : UpToStop xs es)
    (hs : ∀ e ∈ es, e.stops = false) : es.length = xs.length := by
  rcases Nat.eq_or_lt_of_le h.length_le with he | hl
  · exact he
  · obtain ⟨e, hm, he⟩ := h.stops hl
    simp [hs e (List.mem_of_getLast? hm)] at he

/-- The executions belong to the first statements only. -/
theorem zip_append_of_length_le {α β : Type} {xs : List α} {es : List β}
    (h : es.length ≤ xs.length) (ys : List α) : (xs ++ ys).zip es = xs.zip es := by
  induction xs generalizing es with
  | nil =>
    obtain rfl := List.eq_nil_of_length_eq_zero (Nat.le_zero.mp h)
    simp
  | cons x xs ih =>
    cases es with
    | nil => simp
    | cons e es => simp [@ih es (by simpa using h)]

namespace Processor

variable (p : Processor (StateM σ))

theorem executeUntil_cons_run (x : String) (xs : List String) (st : σ) :
    (p.executeUntil (x :: xs)).run st =
      (if ((p.execute x false).run st).1.stops then pure [((p.execute x false).run st).1]
        else p.executeUntil xs >>= fun es => pure (((p.execute x false).run st).1 :: es) :
          StateM σ _).run ((p.execute x false).run st).2 := rfl

theorem executeUntil_cons_of_stops {x : String} {st : σ}
    (he : ((p.execute x false).run st).1.stops = true) (xs : List String) :
    (p.executeUntil (x :: xs)).run st =
      ([((p.execute x false).run st).1], ((p.execute x false).run st).2) := by
  rw [executeUntil_cons_run, if_pos he]
  rfl

theorem executeUntil_cons_of_goesOn {x : String} {st : σ}
    (he : ((p.execute x false).run st).1.stops = false) (xs : List String) :
    (p.executeUntil (x :: xs)).run st =
      (((p.execute x false).run st).1 :: ((p.executeUntil xs).run ((p.execute x false).run st).2).1,
        ((p.executeUntil xs).run ((p.execute x false).run st).2).2) := by
  rw [executeUntil_cons_run, if_neg (by simp [he])]
  rfl

/-- What is executed, and that nothing else touches the state. -/
theorem executeUntil_run (xs : List String) (st : σ) :
    UpToStop xs ((p.executeUntil xs).run st).1 ∧
      inTurn (p.execute · false) (xs.take ((p.executeUntil xs).run st).1.length) st =
        (p.executeUntil xs).run st := by
  induction xs generalizing st with
  | nil => exact ⟨.nil, rfl⟩
  | cons x xs ih =>
    obtain ⟨hu, hm⟩ := ih ((p.execute x false).run st).2
    cases he : ((p.execute x false).run st).1.stops with
    | true =>
      rw [executeUntil_cons_of_stops p he]
      exact ⟨.single x xs he, by simp⟩
    | false =>
      rw [executeUntil_cons_of_goesOn p he]
      exact ⟨hu.cons x he, by simp [hm]⟩

/-- Without a stop, all statements are executed. -/
theorem executeUntil_run_eq_inTurn {xs : List String} {st : σ}
    (h : ∀ e ∈ (inTurn (p.execute · false) xs st).1, e.stops = false) :
    (p.executeUntil xs).run st = inTurn (p.execute · false) xs st := by
  induction xs generalizing st with
  | nil => rfl
  | cons x xs ih =>
    simp only [inTurn_cons, List.forall_mem_cons] at h
    rw [executeUntil_cons_of_goesOn p h.1, ih h.2, inTurn_cons]

theorem executeUntil_append_of_stops {xs : List String} {st : σ}
    (h : ((p.executeUntil xs).run st).1.any Execution.stops = true) (ys : List String) :
    (p.executeUntil (xs ++ ys)).run st = (p.executeUntil xs).run st := by
  rw [executeUntil_append, bind_run, if_pos h]
  rfl

theorem executeUntil_append_of_goesOn {xs : List String} {st : σ}
    (h : ((p.executeUntil xs).run st).1.any Execution.stops = false) (ys : List String) :
    (p.executeUntil (xs ++ ys)).run st =
      (((p.executeUntil xs).run st).1 ++
          ((p.executeUntil ys).run ((p.executeUntil xs).run st).2).1,
        ((p.executeUntil ys).run ((p.executeUntil xs).run st).2).2) := by
  rw [executeUntil_append, bind_run, if_neg (by simp [h])]
  rfl

/-- A live run over lines, as a whole: the statements that the lines complete and the pending one
are executed up to the first that stops the run. Only behind the pending one the run is not asked
whether it was cancelled. -/
theorem runFeed_lines_run {s : Progress} (hs : s.Live) (g : Script.Segmenter) (lines : List String)
    (st : σ) :
    let xs := (g.pushLines lines).1
    let ys := (g.pushLines lines).2.finish.toList
    let r := (p.executeUntil (xs ++ ys)).run st
    (p.runFeed g s (lines.map .ok)).run st =
      ((s.afterAll ((xs ++ ys).zip r.1)).ending xs.length r.1, r.2) := by
  intro xs ys r
  have hu := (executeUntil_run p xs st).1
  rw [runFeed_of_live p hs, bind_run]
  have hz : (xs.zip ((p.executeUntil xs).run st).1).map Prod.snd = ((p.executeUntil xs).run st).1 :=
    List.map_snd_zip hu.length_le
  have hlive := Progress.live_afterAll (xs.zip ((p.executeUntil xs).run st).1) hs
  rw [hz] at hlive
  cases ha : ((p.executeUntil xs).run st).1.any Execution.stops with
  | true =>
    -- the run ends among the statements completed, and the pending one is not reached
    have hr : r = (p.executeUntil xs).run st := executeUntil_append_of_stops p ha ys
    have hn : ¬(s.afterAll (xs.zip ((p.executeUntil xs).run st).1)).Live := by
      rw [hlive]
      simpa using ha
    rw [runStatements_of_failure p (Progress.isSome_failure_check hn), hr,
      zip_append_of_length_le hu.length_le, Progress.ending,
      List.take_of_length_le hu.length_le, if_pos ha]
    rfl
  | false =>
    have hg : ∀ e ∈ ((p.executeUntil xs).run st).1, e.stops = false := by simpa using ha
    have hr : r = _ := executeUntil_append_of_goesOn p ha ys
    have hl := hu.length_eq hg
    rw [Progress.check_of_live (hlive.mpr hg), runStatements_toList p (hlive.mpr hg), hr,
      Progress.ending, List.take_left' hl, if_neg (by simp [ha]), List.zip_append hl.symm,
      Progress.afterAll_append]
    rfl

/-- A run over a text, as a whole. -/
theorem run_ofText_run (script : String) (st : σ) :
    let xs := Script.splitStatements p.mode script
    let r := (p.executeUntil xs).run st
    (p.run (.ofText script) false).run st =
      ((Progress.afterAll {} (xs.zip r.1)).ending
        (Script.completed p.mode (Text.lines script)).length r.1, r.2) := by
  simp only [run, Script.Input.feed_ofText, Script.splitStatements_eq]
  exact runFeed_lines_run p ⟨rfl, rfl⟩ (Script.Segmenter.start p.mode) (Text.lines script) st

end Processor

end TableFeed.Run
