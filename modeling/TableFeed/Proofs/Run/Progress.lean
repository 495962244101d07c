import TableFeed.Run.Processor

/-!
# How far a run has come

A run is *live* until it is cancelled or broken off. Only an execution that *stops* ends this: its
handler gave up, or the run was cancelled meanwhile. What a run makes of its executions can be read
off them: their calls and outcomes in order, whether one cancelled, whether a handler gave up.

    live ──execution──▶ live ──execution──▶ ... ──execution that stops──▶ cancelled or broken off
-/

namespace TableFeed.Run

open TableFeed Service

namespace Execution

/-- Whether the handler gave up. -/
def gaveUp (e : Execution) : Bool :=
  match e.result with
  | .error (.handler .cancelled) => true
  | _ => false

/-- Whether no statement may be executed behind this one. -/
def stops (e : Execution) : Bool := e.cancels || e.gaveUp

/-- The outcome of a statement, with so many statements before it. -/
def outcome (e : Execution) (index : Nat) (statement : String) : Outcome :=
  match e.result with
  | .ok r => { index, statement, status := r.status, body := r.body }
  | .error f => { index, statement, status := f.status, body := "Error: " ++ f.message }

theorem gaveUp_iff {e : Execution} : e.gaveUp = true ↔ e.result = .error (.handler .cancelled) := by
  unfold gaveUp
  split <;> simp_all

end Execution

namespace Progress

/-- Whether a run goes on. -/
def Live (s : Progress) : Prop := s.failure = none ∧ s.cancelled = false

/-- A run that has been asked whether it is cancelled. -/
def check (s : Progress) : Progress :=
  if s.failure.isSome then s else if s.cancelled then s.stop .cancelled else s

/-- A run that is broken off, if it is not already. -/
def breakOff (s : Progress) (f : Failure) : Progress := if s.failure.isSome then s else s.stop f

theorem check_of_live {s : Progress} (hs : s.Live) : s.check = s := by
  simp [check, hs.1, hs.2]

/-- A run that is not live is broken off when it is asked. -/
theorem isSome_failure_check {s : Progress} (hs : ¬s.Live) : s.check.failure.isSome = true := by
  unfold check
  split
  · assumption
  · split
    · rfl
    · simp_all [Live]

theorem not_live_check {s : Progress} (hs : ¬s.Live) : ¬s.check.Live := by
  intro h
  simpa [h.1] using isSome_failure_check hs

theorem check_of_failure {s : Progress} (hs : s.failure.isSome = true) : s.check = s := if_pos hs

@[simp] theorem check_check (s : Progress) : s.check.check = s.check := by
  by_cases hs : s.Live
  · rw [check_of_live hs, check_of_live hs]
  · exact check_of_failure (isSome_failure_check hs)

@[simp] theorem calls_check (s : Progress) : s.check.calls = s.calls := by
  unfold check
  split
  · rfl
  · split <;> rfl

@[simp] theorem outcomes_check (s : Progress) : s.check.outcomes = s.outcomes := by
  unfold check
  split
  · rfl
  · split <;> rfl

theorem failure_check (s : Progress) :
    s.check.failure = (s.failure <|> if s.cancelled then some .cancelled else none) := by
  unfold check
  cases hf : s.failure with
  | some f => simp [hf]
  | none => cases hc : s.cancelled <;> simp [hf, stop]

/-! ### One execution -/

@[simp] theorem calls_after (s : Progress) (x : String) (e : Execution) :
    (s.after x e).calls = s.calls ++ e.call.toList := by
  unfold after
  split <;> rfl

@[simp] theorem cancelled_after (s : Progress) (x : String) (e : Execution) :
    (s.after x e).cancelled = (s.cancelled || e.cancels) := by
  unfold after
  split <;> rfl

theorem failure_after (s : Progress) (x : String) (e : Execution) :
    (s.after x e).failure = if e.gaveUp then some .cancelled else s.failure := by
  unfold after Execution.gaveUp
  split <;> simp_all [record, stop]

theorem outcomes_after (s : Progress) (x : String) {e : Execution} (he : e.gaveUp = false) :
    (s.after x e).outcomes = s.outcomes ++ [e.outcome s.outcomes.length x] := by
  unfold after Execution.outcome
  unfold Execution.gaveUp at he
  split <;> simp_all [record]

/-- A run stays live exactly behind an execution that does not stop it. -/
theorem live_after {s : Progress} (hs : s.Live) (x : String) (e : Execution) :
    (s.after x e).Live ↔ e.stops = false := by
  simp only [Live, failure_after, cancelled_after, hs.1, hs.2, Execution.stops]
  cases e.gaveUp <;> simp

/-! ### Several executions -/

/-- A run after several statements were executed. -/
def afterAll (s : Progress) (xs : List (String × Execution)) : Progress :=
  xs.foldl (fun s x => s.after x.1 x.2) s

@[simp] theorem afterAll_nil (s : Progress) : s.afterAll [] = s := rfl

@[simp] theorem afterAll_cons (s : Progress) (x : String × Execution)
    (xs : List (String × Execution)) : s.afterAll (x :: xs) = (s.after x.1 x.2).afterAll xs := rfl

theorem afterAll_append (s : Progress) (xs ys : List (String × Execution)) :
    s.afterAll (xs ++ ys) = (s.afterAll xs).afterAll ys := List.foldl_append

variable (xs : List (String × Execution))

theorem calls_afterAll (s : Progress) :
    (s.afterAll xs).calls = s.calls ++ (xs.map Prod.snd).filterMap Execution.call := by
  induction xs generalizing s with
  | nil => simp
  | cons x xs ih =>
    rw [afterAll_cons, ih, calls_after, List.append_assoc]
    cases hc : x.2.call <;> simp [hc]

theorem cancelled_afterAll (s : Progress) :
    (s.afterAll xs).cancelled = (s.cancelled || (xs.map Prod.snd).any Execution.cancels) := by
  induction xs generalizing s with
  | nil => simp
  | cons x xs ih =>
    rw [afterAll_cons, ih, cancelled_after, List.map_cons, List.any_cons, Bool.or_assoc]

theorem failure_afterAll {s : Progress} (hs : s.failure = none) :
    (s.afterAll xs).failure =
      if (xs.map Prod.snd).any Execution.gaveUp then some .cancelled else none := by
  suffices h : ∀ s : Progress, (s.afterAll xs).failure =
      if (xs.map Prod.snd).any Execution.gaveUp then some .cancelled else s.failure by rw [h, hs]
  induction xs with
  | nil => simp
  | cons x xs ih =>
    intro s
    rw [afterAll_cons, ih, failure_after, List.map_cons, List.any_cons]
    cases x.2.gaveUp <;> cases (xs.map Prod.snd).any Execution.gaveUp <;> rfl

theorem outcomes_afterAll (s : Progress) {xs : List (String × Execution)}
    (hx : ∀ e ∈ xs.map Prod.snd, e.gaveUp = false) :
    (s.afterAll xs).outcomes =
      s.outcomes ++ xs.mapIdx fun i x => x.2.outcome (s.outcomes.length + i) x.1 := by
  induction xs generalizing s with
  | nil => simp
  | cons x xs ih =>
    rw [List.map_cons, List.forall_mem_cons] at hx
    rw [afterAll_cons, ih _ hx.2, outcomes_after s x.1 hx.1, List.mapIdx_cons]
    simp [Nat.add_assoc, Nat.add_comm 1]

/-- A run stays live exactly behind executions none of which stops it. -/
theorem live_afterAll {s : Progress} (hs : s.Live) :
    (s.afterAll xs).Live ↔ ∀ e ∈ xs.map Prod.snd, e.stops = false := by
  have hf : (s.afterAll xs).failure = none ↔ (xs.map Prod.snd).any Execution.gaveUp = false := by
    rw [failure_afterAll xs hs.1]
    cases (xs.map Prod.snd).any Execution.gaveUp <;> simp
  simp only [Live, hf, cancelled_afterAll, hs.2, Bool.false_or, List.any_eq_false, Execution.stops,
    Bool.or_eq_false_iff, Bool.not_eq_true]
  constructor
  · exact fun h e he => ⟨h.2 e he, h.1 e he⟩
  · exact fun h => ⟨fun e he => (h e he).2, fun e he => (h e he).1⟩

/-! ### The end of a run -/

theorem result_eq_error_iff {s : Progress} {f : Failure} :
    s.result = .error f ↔ s.failure = some f := by
  unfold result
  cases s.failure <;> simp

theorem result_eq_ok {s : Progress} (h : s.failure = none) : s.result = .ok s.outcomes := by
  simp [result, h]

/-- A run after its executions: if one of the first `n` stops it, it has been asked whether it was
cancelled. -/
def ending (s : Progress) (n : Nat) (es : List Execution) : Progress :=
  if (es.take n).any Execution.stops then s.check else s

section Ending

variable {s : Progress} {ys : List String} {es : List Execution} (hl : es.length ≤ ys.length)
  (n : Nat)

include hl

theorem calls_ending :
    ((s.afterAll (ys.zip es)).ending n es).calls = s.calls ++ es.filterMap Execution.call := by
  have hc : (s.afterAll (ys.zip es)).calls = s.calls ++ es.filterMap Execution.call := by
    rw [calls_afterAll, List.map_snd_zip hl]
  unfold ending
  split
  · rw [calls_check, hc]
  · exact hc

/-- When a live run is broken off. -/
theorem failure_ending (hs : s.Live) :
    ((s.afterAll (ys.zip es)).ending n es).failure =
      if es.any Execution.gaveUp || (es.take n).any Execution.stops then some .cancelled
      else none := by
  have hf := failure_afterAll (ys.zip es) hs.1
  have hc := cancelled_afterAll (ys.zip es) s
  rw [List.map_snd_zip hl] at hf hc
  unfold ending
  cases hg : es.any Execution.gaveUp with
  | true =>
    split <;> simp [failure_check, hf, hg]
  | false =>
    split
    · next ht =>
      -- nobody gave up, so what stops the run cancelled it
      have he : es.any Execution.cancels = true := by
        obtain ⟨e, hm, hst⟩ := List.any_eq_true.mp ht
        have hg' : e.gaveUp = false := by
          simpa using List.any_eq_false.mp hg e (List.mem_of_mem_take hm)
        refine List.any_eq_true.mpr ⟨e, List.mem_of_mem_take hm, ?_⟩
        simpa [Execution.stops, hg'] using hst
      rw [failure_check, hf, hc, hg, he, ht]
      simp
    · next ht => simp [hf, hg, ht]

/-- A live run is broken off if a handler gives up, or a call cancels that is not the last thing
that is done. -/
theorem result_ending_eq_error_iff (hs : s.Live) :
    ((s.afterAll (ys.zip es)).ending n es).result = .error .cancelled ↔
      (∃ e ∈ es, e.result = .error (.handler .cancelled)) ∨ ∃ e ∈ es.take n, e.cancels = true := by
  have hc : ∀ b : Bool, (if b = true then some Failure.cancelled else none) = some .cancelled ↔
      b = true := by decide
  rw [result_eq_error_iff, failure_ending hl n hs, hc]
  simp only [Bool.or_eq_true, List.any_eq_true, Execution.stops, Execution.gaveUp_iff]
  constructor
  · rintro (h | ⟨e, hm, hst | hg⟩)
    · exact .inl h
    · exact .inr ⟨e, hm, hst⟩
    · exact .inl ⟨e, List.mem_of_mem_take hm, hg⟩
  · rintro (h | ⟨e, hm, hst⟩)
    · exact .inl h
    · exact .inr ⟨e, hm, .inl hst⟩

/-- A run that is not broken off has the outcomes of all its executions. -/
theorem result_ending_eq_ok
    (h : ((afterAll {} (ys.zip es)).ending n es).result ≠ .error .cancelled) :
    ((afterAll {} (ys.zip es)).ending n es).result =
      .ok ((ys.zip es).mapIdx fun i x => x.2.outcome i x.1) := by
  have hf := @failure_ending {} ys es hl n ⟨rfl, rfl⟩
  have hn : ¬(es.any Execution.gaveUp || (es.take n).any Execution.stops) = true := by
    intro ht
    exact h (result_eq_error_iff.mpr (hf.trans (if_pos ht)))
  have hg : ∀ e ∈ (ys.zip es).map Prod.snd, e.gaveUp = false := by
    rw [List.map_snd_zip hl]
    simp only [Bool.or_eq_true, not_or, Bool.not_eq_true] at hn
    simpa using hn.1
  have ho := outcomes_afterAll {} hg
  rw [result_eq_ok (hf.trans (if_neg hn)), ending]
  split <;> simp [ho]

end Ending

end Progress

end TableFeed.Run
