import TableFeed.Proofs.Script.LineModes

/-!
# Answers on demand

The `k`-th call is answered with the `k`-th statement of the lines, and with nothing behind the last
one. For the answer no more lines are fetched than are needed to complete it, and the source is
asked for a line in vain once at most.

    lines        a; b;        c        ; d;  e
    calls        1  2         -        3 4   5, 6, ...
    fetched      1  1         2        3 3   3, and the source has said that it has ended

What is known behind `n` calls (`Reached`) is kept by every call (`reached_next`), hence by all of
them (`reached_take`).
-/

namespace TableFeed.Script

open TableFeed

/-! ### The statements of the first lines -/

theorem Segmenter.pushLines_append_fst (g : Segmenter) (front back : List String) :
    (g.pushLines (front ++ back)).1 =
      (g.pushLines front).1 ++ ((g.pushLines front).2.pushLines back).1 := by
  induction front generalizing g with
  | nil => rfl
  | cons line front ih =>
    have h := ih (g.pushLine line).2
    simp only [List.cons_append, pushLines, h, List.append_assoc]

theorem completed_take_succ (mode : LineMode) {lines : List String} {j : Nat}
    (hj : j < lines.length) :
    completed mode (lines.take (j + 1)) =
      completed mode (lines.take j) ++
        ((Segmenter.after mode (lines.take j)).pushLine lines[j]).1 := by
  rw [List.take_succ_eq_append_getElem hj, completed, Segmenter.pushLines_append_fst]
  simp [completed, Segmenter.after, Segmenter.pushLines]

/-- More lines complete more statements. -/
theorem length_completed_take_mono (mode : LineMode) (lines : List String) {i j : Nat}
    (hij : i ≤ j) :
    (completed mode (lines.take i)).length ≤ (completed mode (lines.take j)).length := by
  have hsplit : lines.take j = lines.take i ++ (lines.take j).drop i := by
    have h := List.take_append_drop i (lines.take j)
    rw [List.take_take, Nat.min_eq_left hij] at h
    exact h.symm
  rw [hsplit, completed, completed, Segmenter.pushLines_append_fst, List.length_append]
  omega

namespace Statements

/-! ### Answers -/

/-- The answers to some calls are the statements that are still to be handed out. -/
theorem take_fst (i : Statements) (n : Nat) :
    (i.take n).1 = (List.range n).map fun k => i.remaining[k]? := by
  induction n generalizing i with
  | zero => rfl
  | succ n ih =>
    have hr := remaining_next i
    have ht : (i.take (n + 1)).1 = i.next.1 :: (i.next.2.take n).1 := rfl
    rw [ht, ih, List.range_succ_eq_map, List.map_cons, List.map_map]
    cases ha : i.next.1 with
    | some s =>
      rw [ha] at hr
      simp [← hr, Function.comp_def]
    | none =>
      have hi := remaining_of_next_eq_none ha
      rw [ha, hi] at hr
      have hj : i.next.2.remaining = [] := hr
      simp [hi, hj, Function.comp_def]

/-! ### Lines -/

/-- What is known of statements on demand behind `n` calls. -/
inductive Reached (mode : LineMode) (lines : List String) (n : Nat) : Statements → Prop
  /-- The first `j` lines have been fetched, and fewer would not have been enough. -/
  | reading (j : Nat) (ready : List String) (hj : j ≤ lines.length)
    (hready : (completed mode (lines.take j)).length = n + ready.length)
    (hneeded : ∀ i < j, (completed mode (lines.take i)).length < n) :
    Reached mode lines n
      ⟨⟨lines.drop j, j⟩, some (Segmenter.after mode (lines.take j)), ready⟩
  /-- All lines have been fetched, and the source has said that it has ended. -/
  | ended (hn : (completed mode lines).length < n) :
    Reached mode lines n ⟨⟨[], lines.length + 1⟩, none, []⟩

variable {mode : LineMode} {lines : List String}

theorem reached_start (mode : LineMode) (lines : List String) :
    Reached mode lines 0 (start lines mode) :=
  .reading 0 [] (Nat.zero_le _) rfl fun _ hi => absurd hi (Nat.not_lt_zero _)

/-- Where nothing is ready, lines are fetched up to the first one that completes a statement. -/
theorem reached_fetch {j n : Nat} (hj : j ≤ lines.length)
    (hn : (completed mode (lines.take j)).length = n) :
    Reached mode lines (n + 1)
      (fetch (Segmenter.after mode (lines.take j)) j (lines.drop j)).2 := by
  generalize hrest : lines.drop j = rest
  induction rest generalizing j with
  | nil =>
    obtain rfl : j = lines.length := Nat.le_antisymm hj (List.drop_eq_nil_iff.mp hrest)
    rw [List.take_length] at hn
    exact .ended (by omega)
  | cons line rest ih =>
    have hlt : j < lines.length := by
      have hl := congrArg List.length hrest
      rw [List.length_drop, List.length_cons] at hl
      omega
    rw [List.drop_eq_getElem_cons hlt, List.cons.injEq] at hrest
    obtain ⟨rfl, hrest⟩ := hrest
    have hc := congrArg List.length (completed_take_succ mode hlt)
    have hg := Segmenter.after_take_succ mode hlt
    rw [List.length_append, hn] at hc
    rw [fetch]
    split
    · next g hp =>
      rw [hp] at hc hg
      cases hg
      exact ih hlt hc hrest
    · next s ready g hp =>
      rw [hp] at hc hg
      cases hg
      rw [← hrest]
      refine .reading (j + 1) ready hlt (by simpa [Nat.add_comm, Nat.add_left_comm] using hc) ?_
      intro i hi
      have hm := length_completed_take_mono mode lines (Nat.le_of_lt_succ hi)
      omega

/-- What is known behind some calls is kept by the next one. -/
theorem reached_next {n : Nat} {i : Statements} (hi : Reached mode lines n i) :
    Reached mode lines (n + 1) i.next.2 := by
  cases hi with
  | reading j ready hj hready hneeded =>
    cases ready with
    | nil => exact reached_fetch hj hready
    | cons s ready =>
      refine .reading j ready hj ?_ ?_
      · rw [hready, List.length_cons]
        omega
      · intro i hi
        exact Nat.lt_succ_of_lt (hneeded i hi)
  | ended hn => exact .ended (Nat.lt_succ_of_lt hn)

theorem reached_take {m : Nat} {i : Statements} (hi : Reached mode lines m i) (n : Nat) :
    Reached mode lines (m + n) (i.take n).2 := by
  induction n generalizing m i with
  | zero => exact hi
  | succ n ih =>
    have h := ih (reached_next hi)
    rw [Nat.add_assoc, Nat.add_comm 1] at h
    exact h

/-- When a statement is handed out, no line behind the one that completes it has been fetched. -/
theorem Reached.source_eq {k : Nat} {i : Statements} (hi : Reached mode lines (k + 1) i) {j : Nat}
    (hbefore : (completed mode (lines.take j)).length ≤ k)
    (hline : k < (completed mode (lines.take (j + 1))).length) :
    i.source = ⟨lines.drop (j + 1), j + 1⟩ := by
  cases hi with
  | reading j' ready hj hready hneeded =>
    have hlo : j < j' := by
      refine Nat.lt_of_not_le fun hn => ?_
      have hm := length_completed_take_mono mode lines hn
      omega
    have hhi : j' ≤ j + 1 := by
      refine Nat.le_of_not_lt fun hn => ?_
      have hm := hneeded (j + 1) hn
      omega
    obtain rfl : j' = j + 1 := Nat.le_antisymm hhi hlo
    rfl
  | ended hn =>
    have hm := length_completed_take_mono mode lines (Nat.le_add_right (j + 1) lines.length)
    rw [List.take_of_length_le (Nat.le_add_left lines.length (j + 1))] at hm
    omega

/-- Statements on demand, called `n` times. The `k`-th call is answered with the `k`-th statement of
the lines, and with nothing where there is none. Lines are fetched in order, and the source is not
asked again when it has ended. When a statement is handed out that is completed by the line `j`, the
lines up to that one have been fetched and no other. -/
theorem take_start (mode : LineMode) (lines : List String) (n : Nat) :
    ((start lines mode).take n).1 = (List.range n).map (fun k => (segment mode lines)[k]?) ∧
      (∃ asked ≤ lines.length + 1,
        ((start lines mode).take n).2.source = ⟨lines.drop asked, asked⟩) ∧
      ∀ j k, n = k + 1 → (completed mode (lines.take j)).length ≤ k →
        k < (completed mode (lines.take (j + 1))).length →
        ((start lines mode).take n).2.source = ⟨lines.drop (j + 1), j + 1⟩ := by
  have hreached : Reached mode lines n ((start lines mode).take n).2 := by
    have h := reached_take (reached_start mode lines) n
    rwa [Nat.zero_add] at h
  refine ⟨take_fst _ n, ?_, ?_⟩
  · generalize ((start lines mode).take n).2 = i at hreached
    cases hreached with
    | reading j ready hj hready hneeded => exact ⟨j, Nat.le_succ_of_le hj, rfl⟩
    | ended hn =>
      refine ⟨lines.length + 1, Nat.le_refl _, ?_⟩
      rw [List.drop_eq_nil_of_le (Nat.le_succ _)]
  · rintro j k rfl hbefore hline
    exact hreached.source_eq hbefore hline

/-- Two statements on the first line, one that needs the second line, and one that is pending. -/
theorem take_start_twoLines :
    ((start ["a; b; c", ";", "d"] .continuous).take 3).1 = [some "a", some "b", some "c"] ∧
      ((start ["a; b; c", ";", "d"] .continuous).take 3).2.source = ⟨["d"], 2⟩ ∧
      ((start ["a; b; c", ";", "d"] .continuous).take 5).1 =
        [some "a", some "b", some "c", some "d", none] := by
  obtain ⟨ha, -, hs⟩ := take_start .continuous ["a; b; c", ";", "d"] 3
  refine ⟨ha.trans (by decide), hs 1 2 rfl (by decide) (by decide), ?_⟩
  exact (take_start .continuous ["a; b; c", ";", "d"] 5).1.trans (by decide)

end Statements

end TableFeed.Script
