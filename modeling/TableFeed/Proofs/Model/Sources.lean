import Mathlib.Data.List.Basic
import TableFeed.Model.OfStatement

/-!
# The sources of an `INSERT`

An `INSERT` may take the same expressions from `VALUES` or from a `SELECT`. An entry of `VALUES`
is taken apart at parentheses, signs, operators and tuples; where that ends, both sources find
the same values, but for a number with a minus in front of it. The walk over a `SELECT` goes on
below the minus and finds the number once more.

    VALUES (a + -5)    a + -5  ──ends──▶  a, -5   ──▶   "a", "-5"
    SELECT a + -5      a + -5  ──ends──▶  a, -5   ──▶   "a", "-5", "5"
-/

namespace TableFeed.Model

open TableFeed Sql

/-! ### Rows and values -/

theorem flatten_pushValue (width : Nat) (v : Option String) (rows : List Row) :
    (pushValue width v rows).flatten = rows.flatten ++ [v] := by
  fun_induction pushValue width v rows with
  | case1 => rfl
  | case2 row h => simp
  | case3 row h => simp
  | case4 row next rows ih => simp [ih]

/-- The rows of an insertion hold the values that were pushed, in order. -/
theorem Insertion.flatten_rows_pushAll (i : Insertion) (vs : List (Option String)) :
    (i.pushAll vs).rows.flatten = i.rows.flatten ++ vs := by
  induction vs generalizing i with
  | nil => simp [pushAll]
  | cons v vs ih =>
    have h : (i.push v).rows.flatten = i.rows.flatten ++ [v] := flatten_pushValue _ v i.rows
    have hc : i.pushAll (v :: vs) = (i.push v).pushAll vs := rfl
    rw [hc, ih, h, List.append_assoc, List.singleton_append]

theorem Insertion.pushAll_inj (i : Insertion) {vs ws : List (Option String)} :
    i.pushAll vs = i.pushAll ws ↔ vs = ws := by
  refine ⟨fun h => ?_, congrArg _⟩
  have hf := congrArg (fun j : Insertion => j.rows.flatten) h
  simpa only [flatten_rows_pushAll, List.append_cancel_left_eq] using hf

/-! ### Where taking apart ends -/

mutual

/-- The expressions at which taking an entry of `VALUES` apart ends: leaves, and forms that are
walked as a whole. -/
def ends (e : Expr) : List Expr :=
  match leaf? e with
  | some _ => [e]
  | none =>
    match e with
    | .nested inner => ends inner
    | .unary _ operand => ends operand
    | .binary l _ r => ends l ++ ends r
    | .tuple items => endsAll items
    | other => [other]

/-- The ends of several entries. -/
def endsAll : List Expr → List Expr
  | [] => []
  | e :: es => ends e ++ endsAll es

end

/-- The digits behind a minus that stands directly before a number. -/
def signedDigits : Expr → Option String
  | .unary .minus (.literal (.number digits _)) => some digits
  | _ => none

/-- The values of an end. -/
def endValues (e : Expr) : List (Option String) :=
  match leaf? e with
  | some v => [v]
  | none => walkedValues e.walk

@[simp] theorem walkedValues_nil : walkedValues [] = [] := rfl

@[simp] theorem walkedValues_append (as bs : List Expr) :
    walkedValues (as ++ bs) = walkedValues as ++ walkedValues bs := List.filterMap_append

theorem walkedValues_cons_of_none {e : Expr} (h : leaf? e = none) (es : List Expr) :
    walkedValues (e :: es) = walkedValues es := List.filterMap_cons_none h

theorem endsAll_eq_flatMap (es : List Expr) : endsAll es = es.flatMap ends := by
  induction es with
  | nil => rfl
  | cons e es ih => rw [endsAll, ih, List.flatMap_cons]

/-- At a leaf a walk finds its value, and behind that the digits of a signed number. -/
theorem walkedValues_of_leaf {e : Expr} {v : Option String} (h : leaf? e = some v) :
    walkedValues e.walk = v :: (signedDigits e).toList.map some := by
  revert h
  fun_cases leaf? e <;> rintro ⟨⟩
  · rfl
  · rfl
  · rfl
  · rfl

theorem ends_of_leaf {e : Expr} {v : Option String} (h : leaf? e = some v) : ends e = [e] := by
  rw [ends.eq_def, h]

theorem entryValues_of_leaf {e : Expr} {v : Option String} (h : leaf? e = some v) :
    entryValues e = [v] := by
  rw [entryValues.eq_def, h]

mutual

/-- Both sources find the values at the ends of an entry; a walk finds the digits of a signed
number as well. -/
theorem values_ends (e : Expr) :
    entryValues e = (ends e).flatMap endValues ∧
      walkedValues e.walk =
        (ends e).flatMap fun part => endValues part ++ (signedDigits part).toList.map some := by
  cases hl : leaf? e with
  | some v =>
    rw [entryValues_of_leaf hl, ends_of_leaf hl, walkedValues_of_leaf hl]
    simp [endValues, hl]
  | none =>
    cases e with
    | literal v => cases hl
    | identifier i => cases hl
    | compound parts => cases hl
    | wildcard parts => simp [entryValues, ends, endValues, hl, signedDigits]
    | form shape layout parts => simp [entryValues, ends, endValues, hl, signedDigits]
    | nested inner =>
      obtain ⟨he, hw⟩ := values_ends inner
      rw [entryValues, ends, Expr.walk, walkedValues_cons_of_none hl, he, hw]
      simp [hl]
    | unary op operand =>
      obtain ⟨he, hw⟩ := values_ends operand
      rw [entryValues, ends, Expr.walk, walkedValues_cons_of_none hl, he, hw]
      simp [hl]
    | binary l op r =>
      obtain ⟨hel, hwl⟩ := values_ends l
      obtain ⟨her, hwr⟩ := values_ends r
      rw [entryValues, ends, Expr.walk, walkedValues_cons_of_none hl, walkedValues_append, hel, hwl,
        her, hwr]
      simp [hl]
    | tuple items =>
      obtain ⟨he, hw⟩ := values_endsAll items
      rw [entryValues, ends, Expr.walk, walkedValues_cons_of_none hl, he, hw]
      simp [hl]

theorem values_endsAll (es : List Expr) :
    entriesValues es = (endsAll es).flatMap endValues ∧
      walkedValues (Expr.walkAll es) =
        (endsAll es).flatMap fun part => endValues part ++ (signedDigits part).toList.map some := by
  cases es with
  | nil => exact ⟨rfl, rfl⟩
  | cons e es =>
    obtain ⟨hee, hwe⟩ := values_ends e
    obtain ⟨he, hw⟩ := values_endsAll es
    rw [entriesValues, endsAll, Expr.walkAll, walkedValues_append, hee, hwe, he, hw,
      List.flatMap_append, List.flatMap_append]
    exact ⟨rfl, rfl⟩

end

theorem length_flatMap_le_append {α β : Type} (f g : α → List β) (xs : List α) :
    (xs.flatMap f).length ≤ (xs.flatMap fun x => f x ++ g x).length := by
  induction xs with
  | nil => exact Nat.le_refl _
  | cons x xs ih =>
    simp only [List.flatMap_cons, List.length_append]
    omega

/-- What is added to the pieces of a list makes no difference exactly if nothing is added. -/
theorem flatMap_eq_flatMap_append_iff {α β : Type} (f g : α → List β) (xs : List α) :
    (xs.flatMap f = xs.flatMap fun x => f x ++ g x) ↔ ∀ x ∈ xs, g x = [] := by
  induction xs with
  | nil => simp
  | cons x xs ih =>
    rw [List.flatMap_cons, List.flatMap_cons, List.append_assoc, List.append_cancel_left_eq,
      List.forall_mem_cons, ← ih]
    constructor
    · intro h
      have hg : (g x).length = 0 := by
        have hl := congrArg List.length h
        have hle := length_flatMap_le_append f g xs
        rw [List.length_append] at hl
        omega
      have hx : g x = [] := List.eq_nil_of_length_eq_zero hg
      exact ⟨hx, by rwa [hx, List.nil_append] at h⟩
    · rintro ⟨hx, h⟩
      rw [hx, List.nil_append, h]

/-! ### The two sources -/

/-- `VALUES (e₁, …, eₙ)` -/
def valuesQuery (es : List Expr) : Query := { body := .values { rows := [es] } }

/-- `SELECT e₁, …, eₙ` -/
def selectQuery (es : List Expr) : Query :=
  { body := .other { items := es.map .expr : Selection }.phrase }

theorem sourceValues_valuesQuery (es : List Expr) :
    sourceValues (valuesQuery es) = (es.flatMap ends).flatMap endValues := by
  rw [← endsAll_eq_flatMap, ← (values_endsAll es).1]
  simp [sourceValues, valuesQuery]

theorem walk_selectQuery (es : List Expr) : (selectQuery es).walk = Expr.walkAll es := by
  have hp : (selectQuery es).phrase.parts = es := by
    simp [selectQuery, Query.phrase, QueryBody.phrase, Selection.parts_phrase, List.flatMap_map]
  rw [Query.walk, hp]

theorem sourceValues_selectQuery (es : List Expr) :
    sourceValues (selectQuery es) =
      (es.flatMap ends).flatMap fun part =>
        endValues part ++ (signedDigits part).toList.map some := by
  have hw : sourceValues (selectQuery es) = walkedValues (selectQuery es).walk := rfl
  rw [hw, walk_selectQuery, (values_endsAll es).2, endsAll_eq_flatMap]

theorem sources_agree_iff (parts : List Expr) :
    (parts.flatMap endValues =
        parts.flatMap fun part => endValues part ++ (signedDigits part).toList.map some) ↔
      ∀ part ∈ parts, signedDigits part = none := by
  rw [flatMap_eq_flatMap_append_iff]
  simp

/-- An insertion into a table is the same from `VALUES` as from a `SELECT` of the same expressions
exactly if taking these apart ends at no number with a minus in front of it. So it is with each
expression by itself: a `SELECT` adds the digits of such numbers to the values, and nothing else. -/
theorem ofSql_valuesQuery_eq_selectQuery_iff (table columns : List Ident) (es : List Expr) :
    (Insertion.ofSql { target := .table table, columns, source := some (valuesQuery es) } =
        Insertion.ofSql { target := .table table, columns, source := some (selectQuery es) } ↔
      ∀ e ∈ es, ∀ part ∈ ends e, signedDigits part = none) ∧
    ∀ e : Expr,
      (entryValues e = walkedValues e.walk ↔ ∀ part ∈ ends e, signedDigits part = none) ∧
      entryValues e = (ends e).flatMap endValues ∧
      walkedValues e.walk =
        (ends e).flatMap fun part => endValues part ++ (signedDigits part).toList.map some := by
  constructor
  · simp only [Insertion.ofSql, Option.map_some, Option.getD_some, Except.ok.injEq,
      Insertion.pushAll_inj]
    rw [sourceValues_valuesQuery, sourceValues_selectQuery, sources_agree_iff]
    simp only [List.mem_flatMap]
    constructor
    · exact fun h e he part hp => h part ⟨e, he, hp⟩
    · rintro h part ⟨e, he, hp⟩
      exact h e he part hp
  · intro e
    obtain ⟨he, hw⟩ := values_ends e
    refine ⟨?_, he, hw⟩
    rw [he, hw]
    exact sources_agree_iff (ends e)

/-- A number with a minus in front of it is one value of `VALUES` and two of a `SELECT`. -/
theorem ofSql_signed_number :
    let insert (source : Query) := Insertion.ofSql
      { target := .table [{ text := "t" }], columns := [{ text := "a" }], source := some source }
    let e : Expr := .unary .minus (.literal (.number "5" false))
    insert (valuesQuery [e]) = .ok { table := "t", columns := ["a"], rows := [[some "-5"]] } ∧
      insert (selectQuery [e]) =
        .ok { table := "t", columns := ["a"], rows := [[some "-5"], [some "5"]] } ∧
      insert (valuesQuery [e]) ≠ insert (selectQuery [e]) := by
  intro insert e
  have hv : sourceValues (valuesQuery [e]) = [some "-5"] := by
    rw [sourceValues_valuesQuery]
    decide
  have hs : sourceValues (selectQuery [e]) = [some "-5", some "5"] := by
    rw [sourceValues_selectQuery]
    decide
  simp only [insert, Insertion.ofSql, Option.map_some, Option.getD_some, hv, hs]
  decide

end TableFeed.Model
