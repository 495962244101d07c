import TableFeed.Proofs.Model.Rows

/-!
# Filling rows

Whatever rows an insertion has, values that are pushed are found at the end of its rows, and only
the last of these rows can have changed. From the start, the rows are the stretches of as many
values as there are columns, one behind the other: this is kept by each push (`Filled.push`).

    3 columns      1 2 3 4 5 6 7   ⟶   (1, 2, 3) (4, 5, 6) (7)
    1 column, in one row already     (x, y, z)   ⟶   (x, y, z) (1) (2)
-/

namespace TableFeed.Model

variable {width : Nat}

/-! ### Stretches -/

/-- Some values, `width` of them at a time; the last stretch takes those that are left. No values
make one empty stretch. -/
def stretches (width : Nat) (vs : List (Option String)) : List Row :=
  (List.range (max 1 ((vs.length + width - 1) / width))).map fun k =>
    (vs.drop (k * width)).take width

theorem stretches_of_le {vs : List (Option String)} (hw : 0 < width) (h : vs.length ≤ width) :
    stretches width vs = [vs] := by
  have hcount : (vs.length + width - 1) / width ≤ 1 := by
    have hlt : (vs.length + width - 1) / width < 2 := by
      rw [Nat.div_lt_iff_lt_mul hw]
      omega
    omega
  rw [stretches, Nat.max_eq_left hcount, List.range_one, List.map_singleton, Nat.zero_mul,
    List.drop_zero, List.take_of_length_le h]

/-- In front of other values a full row is a stretch. -/
theorem stretches_append {row : Row} {vs : List (Option String)} (hw : 0 < width)
    (hrow : row.length = width) (hvs : vs ≠ []) :
    stretches width (row ++ vs) = row :: stretches width vs := by
  have hpos : 0 < vs.length := List.length_pos_iff.2 hvs
  have hone : 1 ≤ (vs.length + width - 1) / width := (Nat.one_le_div_iff hw).2 (by omega)
  have hcount : ((row ++ vs).length + width - 1) / width = (vs.length + width - 1) / width + 1 := by
    rw [← Nat.add_div_right _ hw, List.length_append, hrow]
    congr 1
    omega
  rw [stretches, stretches, hcount, Nat.max_eq_right hone, Nat.max_eq_right (by omega),
    List.range_succ_eq_map, List.map_cons, List.map_map]
  congr 1
  · rw [Nat.zero_mul, List.drop_zero, ← hrow, List.take_left]
  · refine List.map_congr_left fun k _ => ?_
    have hk : (k + 1) * width = row.length + k * width := by
      rw [hrow, Nat.succ_mul, Nat.add_comm]
    rw [Function.comp_apply, Nat.succ_eq_add_one, hk, List.drop_length_add_append]

/-! ### Filled rows -/

/-- All rows but the last one are full. The last one is no longer than they are, and empty only if
it is alone. -/
structure Filled (width : Nat) (front : List Row) (last : Row) : Prop where
  full : ∀ row ∈ front, row.length = width
  room : last.length ≤ width
  begun : last = [] → front = []

/-- A push keeps rows filled. -/
theorem Filled.push {front : List Row} {last : Row} (hw : 0 < width)
    (h : Filled width front last) (v : Option String) :
    ∃ front' last', pushValue width v (front ++ [last]) = front' ++ [last'] ∧
      Filled width front' last' := by
  rw [pushValue_append_singleton, pushValue]
  by_cases hl : last.length < width
  · refine ⟨front, last ++ [v], by rw [if_pos hl], h.full, ?_, fun hn => ?_⟩
    · rw [List.length_append, List.length_singleton]
      omega
    · exact absurd hn (List.append_ne_nil_of_right_ne_nil _ (List.cons_ne_nil v []))
  · have hfull : last.length = width := by
      have hroom := h.room
      omega
    refine ⟨front ++ [last], [v], by rw [if_neg hl, List.append_assoc]; rfl, ?_, ?_, fun hn => ?_⟩
    · intro row hrow
      rcases List.mem_append.1 hrow with hrow | hrow
      · exact h.full row hrow
      · rw [List.mem_singleton.1 hrow, hfull]
    · rw [List.length_singleton]
      omega
    · cases hn

/-- So does any number of them. -/
theorem Filled.pushValues {front : List Row} {last : Row} (hw : 0 < width)
    (h : Filled width front last) (vs : List (Option String)) :
    ∃ front' last', Model.pushValues width (front ++ [last]) vs = front' ++ [last'] ∧
      Filled width front' last' := by
  induction vs generalizing front last with
  | nil => exact ⟨front, last, rfl, h⟩
  | cons v vs ih =>
    obtain ⟨front', last', hp, h'⟩ := h.push hw v
    obtain ⟨front'', last'', hps, h''⟩ := ih h'
    refine ⟨front'', last'', ?_, h''⟩
    rw [← hps, ← hp]
    rfl

/-- Filled rows are the stretches of their values. -/
theorem Filled.eq_stretches {front : List Row} {last : Row} (hw : 0 < width)
    (h : Filled width front last) :
    stretches width (front ++ [last]).flatten = front ++ [last] := by
  induction front with
  | nil =>
    rw [List.nil_append, List.flatten_singleton]
    exact stretches_of_le hw h.room
  | cons row front ih =>
    obtain ⟨hrow, hfront⟩ := List.forall_mem_cons.1 h.full
    have hlast : last ≠ [] := fun hn => by cases h.begun hn
    have hrest : (front ++ [last]).flatten ≠ [] := by
      rw [List.flatten_append, List.flatten_singleton]
      exact List.append_ne_nil_of_right_ne_nil _ hlast
    have hfilled : Filled width front last := ⟨hfront, h.room, fun hn => absurd hn hlast⟩
    rw [List.cons_append, List.flatten_cons, stretches_append hw hrow hrest, ih hfilled]

/-! ### Rows of any shape -/

/-- Where no column is named, each value has a row of its own. -/
theorem pushValues_zero (front : List Row) (last : Row) (vs : List (Option String)) :
    pushValues 0 (front ++ [last]) vs = front ++ last :: vs.map ([·]) := by
  induction vs generalizing front last with
  | nil => rfl
  | cons v vs ih =>
    have hv : pushValue 0 v [last] = [last, [v]] := by rw [pushValue, if_neg (Nat.not_lt_zero _)]
    have hfront : front ++ [last, [v]] = (front ++ [last]) ++ [[v]] := by simp
    rw [pushValues_cons, hv, hfront, ih, List.append_assoc]
    rfl

theorem dropLast_prefix_pushValue (v : Option String) (rows : List Row) :
    rows.dropLast <+: (pushValue width v rows).dropLast := by
  rcases List.eq_nil_or_concat rows with rfl | ⟨front, last, rfl⟩
  · exact List.nil_prefix
  · rw [List.concat_eq_append, pushValue_append_singleton, List.dropLast_concat, pushValue]
    split
    · simp only [List.dropLast_concat, List.prefix_rfl]
    · rw [List.dropLast_append_of_ne_nil (by simp)]
      exact List.prefix_append _ _

theorem dropLast_prefix_pushValues (rows : List Row) (vs : List (Option String)) :
    rows.dropLast <+: (pushValues width rows vs).dropLast := by
  induction vs generalizing rows with
  | nil => exact List.prefix_rfl
  | cons v vs ih => exact (dropLast_prefix_pushValue v rows).trans (ih _)

namespace Insertion

theorem table_pushAll (i : Insertion) (vs : List (Option String)) :
    (i.pushAll vs).table = i.table := by
  induction vs generalizing i with
  | nil => rfl
  | cons v vs ih => exact ih (i.push v)

theorem columns_pushAll (i : Insertion) (vs : List (Option String)) :
    (i.pushAll vs).columns = i.columns := by
  induction vs generalizing i with
  | nil => rfl
  | cons v vs ih => exact ih (i.push v)

/-- From one empty row, pushed values keep rows filled. -/
theorem exists_filled {i : Insertion} (hrows : i.rows = [[]]) (hc : i.columns ≠ [])
    (vs : List (Option String)) :
    ∃ front last, (i.pushAll vs).rows = front ++ [last] ∧ Filled i.columns.length front last := by
  have hstart : Filled i.columns.length [] [] := ⟨nofun, Nat.zero_le _, fun _ => rfl⟩
  rw [rows_pushAll, hrows]
  exact hstart.pushValues (List.length_pos_iff.2 hc) vs

/-- Values that are pushed are added behind those that are there, and nothing else happens: the
table, its columns and all rows but the last one stay as they are. From the start, the rows are the
stretches of as many values as there are columns, all full but the last one; without columns each
value has a row of its own behind the empty one. -/
theorem rows_filled (i : Insertion) (vs : List (Option String)) :
    (i.pushAll vs).rows.flatten = i.rows.flatten ++ vs ∧
    (i.pushAll vs).valueCount = i.valueCount + vs.length ∧
    i.rows.dropLast <+: (i.pushAll vs).rows ∧
    (i.pushAll vs).table = i.table ∧ (i.pushAll vs).columns = i.columns ∧
    (i.rows = [[]] → i.columns ≠ [] →
      (i.pushAll vs).rows = stretches i.columns.length vs ∧
      (∀ row ∈ (i.pushAll vs).rows.dropLast, row.length = i.columns.length)) ∧
    (i.rows = [[]] → i.columns = [] → (i.pushAll vs).rows = [] :: vs.map ([·])) := by
  have hflatten := flatten_rows_pushAll i vs
  refine ⟨hflatten, ?_, ?_, table_pushAll i vs, columns_pushAll i vs, fun hrows hc => ?_,
    fun hrows hc => ?_⟩
  · rw [valueCount, hflatten, List.length_append, valueCount]
  · rw [rows_pushAll]
    exact (dropLast_prefix_pushValues _ _).trans (List.dropLast_prefix _)
  · obtain ⟨front, last, hp, hfilled⟩ := exists_filled hrows hc vs
    have hvs : (front ++ [last]).flatten = vs := by rw [← hp, hflatten, hrows]; rfl
    have hs := hfilled.eq_stretches (List.length_pos_iff.2 hc)
    rw [hvs] at hs
    rw [hp, List.dropLast_concat]
    exact ⟨hs.symm, hfilled.full⟩
  · rw [rows_pushAll, hrows, hc]
    exact pushValues_zero [] [] vs

/-- The last row that is there may be too long or missing; from the start, the last one may stay
short. -/
theorem rows_filled_unevenly :
    let tooLong : Insertion :=
      { table := "t", columns := ["a"], rows := [[], [some "x", none]] }
    let noRows : Insertion := { table := "t", columns := ["a", "b"], rows := [] }
    let empty (columns : List String) : Insertion := { table := "t", columns }
    (tooLong.pushAll [some "1", none]).rows = [[], [some "x", none], [some "1"], [none]] ∧
      tooLong.rows.dropLast <+: (tooLong.pushAll [some "1", none]).rows ∧
      (noRows.pushAll [some "1", some "2", some "3"]).rows =
        [[some "1", some "2"], [some "3"]] ∧
      ((empty ["a", "b"]).pushAll [some "1", none, some "3"]).rows =
        stretches 2 [some "1", none, some "3"] ∧
      stretches 2 [some "1", none, some "3"] = [[some "1", none], [some "3"]] ∧
      stretches 2 [] = [[]] ∧
      ((empty []).pushAll [some "1", none]).rows = [[], [some "1"], [none]] := by
  intro tooLong noRows empty
  obtain ⟨-, -, hlast, -⟩ := rows_filled tooLong [some "1", none]
  obtain ⟨-, -, -, -, -, htwo, -⟩ := rows_filled (empty ["a", "b"]) [some "1", none, some "3"]
  obtain ⟨-, -, -, -, -, -, hnone⟩ := rows_filled (empty []) [some "1", none]
  exact ⟨by decide, hlast, by decide, (htwo rfl (by decide)).1, by decide, by decide,
    hnone rfl rfl⟩

end Insertion

end TableFeed.Model
