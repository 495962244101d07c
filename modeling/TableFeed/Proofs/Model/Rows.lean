import Mathlib.Data.List.Forall2
import TableFeed.Proofs.Model.Sources

/-!
# The rows of `VALUES`

The tuples of `VALUES` are taken apart into leaves, and the values of the leaves are cut into rows
again by counting. No leaf is lost or moved, and where every entry has one leaf, the rows are the
tuples: a row is full exactly when a tuple ends (`pushValues_flatten`).

    INSERT INTO t (a, b) VALUES (1, (-2)), ('x', NULL)

    leaves   1  -2  'x'  NULL
    rows     (1, -2)  (x, ·)
-/

namespace TableFeed.Model

open TableFeed Sql

/-! ### Leaves -/

/-- Expressions that are built from literals and names by parentheses, operators and tuples. -/
inductive Composed : Expr → Prop where
  | literal (v : Literal) : Composed (.literal v)
  | identifier (i : Ident) : Composed (.identifier i)
  | compound (parts : List Ident) : Composed (.compound parts)
  | nested {e : Expr} (h : Composed e) : Composed (.nested e)
  | unary (op : UnaryOp) {e : Expr} (h : Composed e) : Composed (.unary op e)
  | binary (op : BinaryOp) {l r : Expr} (hl : Composed l) (hr : Composed r) :
      Composed (.binary l op r)
  | tuple {items : List Expr} (h : ∀ e ∈ items, Composed e) : Composed (.tuple items)

mutual

/-- The leaves of an expression from left to right; a number with a minus directly in front of it
is one leaf. Other forms have none. -/
def leaves : Expr → List Expr
  | .literal v => [.literal v]
  | .identifier i => [.identifier i]
  | .compound parts => [.compound parts]
  | .nested e => leaves e
  | .unary .minus (.literal (.number digits long)) =>
    [.unary .minus (.literal (.number digits long))]
  | .unary _ e => leaves e
  | .binary l _ r => leaves l ++ leaves r
  | .tuple items => allLeaves items
  | .wildcard _ | .form _ _ _ => []

/-- The leaves of several expressions. -/
def allLeaves : List Expr → List Expr
  | [] => []
  | e :: es => leaves e ++ allLeaves es

end

theorem allLeaves_eq_flatMap (es : List Expr) : allLeaves es = es.flatMap leaves := by
  induction es with
  | nil => rfl
  | cons e es ih => rw [allLeaves, ih, List.flatMap_cons]

theorem entriesValues_eq_flatMap (es : List Expr) : entriesValues es = es.flatMap entryValues := by
  induction es with
  | nil => rfl
  | cons e es ih => rw [entriesValues, ih, List.flatMap_cons]

theorem leaves_of_leaf {e : Expr} {v : Option String} (h : leaf? e = some v) : leaves e = [e] := by
  revert h
  fun_cases leaf? e <;> rintro ⟨⟩
  · rfl
  · rfl
  · rfl
  · rfl

theorem leaves_unary_of_none {op : UnaryOp} {e : Expr} (h : leaf? (.unary op e) = none) :
    leaves (.unary op e) = leaves e := by
  rw [leaves]
  rintro digits long rfl rfl
  cases h

/-- The values of an entry are those of its leaves. -/
theorem entryValues_map_some {e : Expr} (h : Composed e) :
    (entryValues e).map some = (leaves e).map leaf? := by
  induction h with
  | literal v => rfl
  | identifier i => rfl
  | compound parts => rfl
  | nested h ih =>
    rw [entryValues, leaves, ← ih]
    rfl
  | @unary op e h ih =>
    cases hl : leaf? (.unary op e) with
    | some v =>
      rw [entryValues_of_leaf hl, leaves_of_leaf hl, List.map_singleton, List.map_singleton, hl]
    | none =>
      rw [entryValues, leaves_unary_of_none hl, ← ih]
      simp only [hl]
  | binary op hl hr ihl ihr =>
    rw [entryValues, leaves, List.map_append, ← ihl, ← ihr, ← List.map_append]
    rfl
  | tuple h ih =>
    rw [entryValues, leaves, allLeaves_eq_flatMap, List.map_flatMap, ← List.flatMap_congr ih,
      ← List.map_flatMap, ← entriesValues_eq_flatMap]
    rfl

theorem flatMap_entryValues_map_some {es : List Expr} (h : ∀ e ∈ es, Composed e) :
    (es.flatMap entryValues).map some = (es.flatMap leaves).map leaf? := by
  rw [List.map_flatMap, List.map_flatMap]
  exact List.flatMap_congr fun e he => entryValues_map_some (h e he)

/-- Entries with one leaf each have one value each. -/
theorem forall₂_entryValues {tuple : List Expr} (hc : ∀ e ∈ tuple, Composed e)
    (hl : ∀ e ∈ tuple, (leaves e).length = 1) :
    List.Forall₂ (fun v e => ∃ l, leaves e = [l] ∧ leaf? l = some v)
      (tuple.flatMap entryValues) tuple := by
  induction tuple with
  | nil => exact .nil
  | cons e tuple ih =>
    obtain ⟨hce, hc⟩ := List.forall_mem_cons.1 hc
    obtain ⟨hle, hl⟩ := List.forall_mem_cons.1 hl
    obtain ⟨l, hle⟩ := List.length_eq_one_iff.1 hle
    have hm := entryValues_map_some hce
    rw [hle, List.map_singleton, List.map_eq_singleton_iff] at hm
    obtain ⟨v, hv, hlv⟩ := hm
    rw [List.flatMap_cons, hv]
    exact .cons ⟨l, hle, hlv.symm⟩ (ih hc hl)

/-! ### Rows -/

/-- Rows with several more values. -/
def pushValues (width : Nat) (rows : List Row) (vs : List (Option String)) : List Row :=
  vs.foldl (fun rows v => pushValue width v rows) rows

theorem pushValues_append (width : Nat) (rows : List Row) (vs ws : List (Option String)) :
    pushValues width rows (vs ++ ws) = pushValues width (pushValues width rows vs) ws :=
  List.foldl_append

/-- Only the last row grows. -/
theorem pushValue_append_singleton (width : Nat) (v : Option String) (front : List Row)
    (row : Row) : pushValue width v (front ++ [row]) = front ++ pushValue width v [row] := by
  induction front with
  | nil => rfl
  | cons r front ih =>
    cases front with
    | nil => rfl
    | cons r' front => exact congrArg (r :: ·) ih

theorem pushValues_cons (width : Nat) (front : List Row) (row : Row) (v : Option String)
    (vs : List (Option String)) :
    pushValues width (front ++ [row]) (v :: vs) =
      pushValues width (front ++ pushValue width v [row]) vs := by
  rw [← pushValue_append_singleton]
  rfl

/-- Values fill up the last row as long as it has room for them. -/
theorem pushValues_of_le {width : Nat} {front : List Row} {row : Row}
    {vs : List (Option String)} (h : row.length + vs.length ≤ width) :
    pushValues width (front ++ [row]) vs = front ++ [row ++ vs] := by
  induction vs generalizing row with
  | nil => simp [pushValues]
  | cons v vs ih =>
    have hrow : row.length < width := by
      rw [List.length_cons] at h
      omega
    have hvs : (row ++ [v]).length + vs.length ≤ width := by
      simp only [List.length_append, List.length_cons, List.length_nil] at h ⊢
      omega
    rw [pushValues_cons, pushValue, if_pos hrow, ih hvs, List.append_assoc, List.singleton_append]

/-- Behind a full row the next value begins a row. -/
theorem pushValues_of_full {width : Nat} (hw : 0 < width) {front : List Row} {row next : Row}
    (hrow : row.length = width) (hnext : next.length = width) :
    pushValues width (front ++ [row]) next = front ++ [row, next] := by
  cases next with
  | nil =>
    rw [List.length_nil] at hnext
    omega
  | cons v vs =>
    have hvs : [v].length + vs.length ≤ width := by
      simp only [List.length_cons, List.length_nil] at hnext ⊢
      omega
    have hfull : front ++ [row, [v]] = (front ++ [row]) ++ [[v]] := by simp
    rw [pushValues_cons, pushValue, if_neg (by omega), hfull, pushValues_of_le hvs,
      List.append_assoc]
    rfl

/-- Behind a full row, full rows of values make these rows. -/
theorem pushValues_flatten {width : Nat} (hw : 0 < width) {front more : List Row} {row : Row}
    (hrow : row.length = width) (hmore : ∀ r ∈ more, r.length = width) :
    pushValues width (front ++ [row]) more.flatten = front ++ row :: more := by
  induction more generalizing front row with
  | nil => rfl
  | cons next more ih =>
    obtain ⟨hnext, hmore⟩ := List.forall_mem_cons.1 hmore
    have hfront : front ++ [row, next] = (front ++ [row]) ++ [next] := by simp
    rw [List.flatten_cons, pushValues_append, pushValues_of_full hw hrow hnext, hfront,
      ih hnext hmore, List.append_assoc, List.singleton_append]

/-- Full rows of values make these rows, if there is one. -/
theorem pushValues_start {width : Nat} (hw : 0 < width) {rows : List Row} (hne : rows ≠ [])
    (hrows : ∀ r ∈ rows, r.length = width) : pushValues width [[]] rows.flatten = rows := by
  cases rows with
  | nil => exact absurd rfl hne
  | cons first more =>
    obtain ⟨hfirst, hmore⟩ := List.forall_mem_cons.1 hrows
    have hlength : ([] : Row).length + first.length ≤ width := by
      rw [List.length_nil]
      omega
    have hrow : pushValues width ([] ++ [[]]) first = [] ++ [first] := pushValues_of_le hlength
    have hrest : pushValues width ([] ++ [first]) more.flatten = [] ++ first :: more :=
      pushValues_flatten hw hfirst hmore
    rw [List.nil_append] at hrow
    rw [List.flatten_cons, pushValues_append, hrow, hrest, List.nil_append]

namespace Insertion

theorem rows_pushAll (i : Insertion) (vs : List (Option String)) :
    (i.pushAll vs).rows = pushValues i.columns.length i.rows vs := by
  induction vs generalizing i with
  | nil => rfl
  | cons v vs ih => exact ih (i.push v)

/-! ### The insertion -/

theorem ofSql_ok_iff {i : Sql.Insert} :
    (∃ m, ofSql i = .ok m) ↔ ∃ name, i.target = .table name := by
  cases ht : i.target with
  | table name => simp [ofSql, ht]
  | other text => simp [ofSql, ht]

theorem ofSql_eq_pushAll {i : Sql.Insert} {q : Query} {r : Rows} {m : Insertion}
    (hs : i.source = some q) (hq : q.body = .values r) (hm : ofSql i = .ok m) :
    ∃ table, m = pushAll { table, columns := i.columns.map Ident.text }
      (r.rows.flatten.flatMap entryValues) := by
  have hv : sourceValues q = r.rows.flatten.flatMap entryValues := by
    rw [sourceValues, hq]
    exact entriesValues_eq_flatMap _
  cases ht : i.target with
  | other text => simp [ofSql, ht] at hm
  | table name =>
    simp only [ofSql, ht, hs, Option.map_some, Option.getD_some, Except.ok.injEq, hv] at hm
    exact ⟨plainName name, hm.symm⟩

/-- An insertion with `VALUES` holds the values of all leaves in order. If as many columns are
named as each tuple has entries, and each entry has one leaf, then the rows are the tuples with
the values of these leaves. -/
theorem ofSql_values {i : Sql.Insert} {q : Query} {r : Rows} (hs : i.source = some q)
    (hq : q.body = .values r) (hc : ∀ tuple ∈ r.rows, ∀ e ∈ tuple, Composed e) :
    ((∃ m, ofSql i = .ok m) ↔ ∃ name, i.target = .table name) ∧
    ∀ m, ofSql i = .ok m →
      m.rows.flatten.map some = (r.rows.flatten.flatMap leaves).map leaf? ∧
      (i.columns ≠ [] →
        (∀ tuple ∈ r.rows, tuple.length = i.columns.length ∧
          ∀ e ∈ tuple, (leaves e).length = 1) →
        List.Forall₂ (List.Forall₂ fun v e => ∃ l, leaves e = [l] ∧ leaf? l = some v)
          m.rows r.rows) := by
  refine ⟨ofSql_ok_iff, fun m hm => ?_⟩
  obtain ⟨table, rfl⟩ := ofSql_eq_pushAll hs hq hm
  refine ⟨?_, fun hw hr => ?_⟩
  · have hc : ∀ e ∈ r.rows.flatten, Composed e := by
      simp only [List.mem_flatten]
      rintro e ⟨tuple, ht, he⟩
      exact hc tuple ht e he
    rw [flatten_rows_pushAll, List.flatten_singleton, List.nil_append,
      flatMap_entryValues_map_some hc]
  · have hf : ∀ tuple ∈ r.rows, List.Forall₂ (fun v e => ∃ l, leaves e = [l] ∧ leaf? l = some v)
        (tuple.flatMap entryValues) tuple :=
      fun tuple ht => forall₂_entryValues (hc tuple ht) (hr tuple ht).2
    have hrows : r.rows.flatten.flatMap entryValues =
        (r.rows.map fun tuple => tuple.flatMap entryValues).flatten := by
      rw [← List.flatMap_id, List.flatMap_assoc, ← List.flatMap_def]
      rfl
    have hlength : ∀ row ∈ r.rows.map fun tuple => tuple.flatMap entryValues,
        row.length = i.columns.length := by
      simp only [List.mem_map]
      rintro _ ⟨tuple, ht, rfl⟩
      exact (hf tuple ht).length_eq.trans (hr tuple ht).1
    rw [rows_pushAll, List.length_map, hrows, pushValues_start (List.length_pos_iff.2 hw)
      (by simpa using r.nonempty) hlength, List.forall₂_map_left_iff, List.forall₂_same]
    exact hf

/-- `INSERT INTO t (a, b) VALUES (1, (-2)), ('x', NULL)` -/
def twoRows : Sql.Insert where
  target := .table [{ text := "t" }]
  columns := [{ text := "a" }, { text := "b" }]
  source := some { body := .values { rows :=
    [[.literal (.number "1" false), .nested (.unary .minus (.literal (.number "2" false)))],
     [.literal (.quoted .single "x"), .literal .null]] } }

/-- A minus in front of a number is part of its value; a null is no value. -/
theorem ofSql_twoRows :
    let rows : List Row := [[some "1", some "-2"], [some "x", none]]
    ofSql twoRows = .ok { table := "t", columns := ["a", "b"], rows } ∧
      ∃ q r, twoRows.source = some q ∧ q.body = .values r ∧
        (∀ tuple ∈ r.rows, ∀ e ∈ tuple, Composed e) ∧
        ∀ m, ofSql twoRows = .ok m →
          List.Forall₂ (List.Forall₂ fun v e => ∃ l, leaves e = [l] ∧ leaf? l = some v)
            m.rows r.rows := by
  intro rows
  have hc : ∀ tuple ∈ [[Expr.literal (.number "1" false),
      .nested (.unary .minus (.literal (.number "2" false)))],
      [.literal (.quoted .single "x"), .literal .null]], ∀ e ∈ tuple, Composed e := by
    simp [Composed.literal, Composed.unary, Composed.nested]
  refine ⟨by decide +kernel, _, _, rfl, rfl, hc, fun m hm => ?_⟩
  exact ((ofSql_values rfl rfl hc).2 m hm).2 (by simp [twoRows]) (by simp [twoRows, leaves])

end Insertion

end TableFeed.Model
