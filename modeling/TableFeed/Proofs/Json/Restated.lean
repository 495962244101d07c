import Mathlib.Data.List.Forall2
import Mathlib.Data.List.Nodup
import TableFeed.Json.Basic

/-!
# The same value in other words

Records are read by the names of their fields, so that a value may be written in many ways: with
the fields of its objects in another order, and among fields that nobody asks for. Such a value
*restates* the first one, and the two are read alike. Lists keep their items and their order.

    {"a": 1, "b": [{"c": 2}]}   ⟶   {"b": [{"x": 0, "c": 2}], "y": null, "a": 1}

A field is found again in whatever restates its object (`RestatedBy.lookup`), as long as no two
fields of the object share a name. A *path* leads from a value to one inside it; `without` drops
a field from the object at its end.
-/

namespace TableFeed.Json

/-! ### Restating -/

/-- The second value restates the first one. -/
inductive RestatedBy : Json → Json → Prop where
  | same (j : Json) : RestatedBy j j
  | array {items others : List Json} (values : List.Forall₂ RestatedBy items others) :
      RestatedBy (.array items) (.array others)
  /-- The fields are `kept` with values that restate the old ones, among `further` ones. -/
  | object {fields kept further written : List (String × Json)}
      (names : kept.map Prod.fst = fields.map Prod.fst)
      (values : List.Forall₂ RestatedBy (fields.map Prod.snd) (kept.map Prod.snd))
      (unknown : ∀ f ∈ further, f.1 ∉ fields.map Prod.fst)
      (order : written.Perm (kept ++ further)) :
      RestatedBy (.object fields) (.object written)

theorem RestatedBy.eq_text {s : String} {j : Json} (h : RestatedBy (.text s) j) : j = .text s := by
  cases h
  rfl

theorem RestatedBy.eq_bool {b : Bool} {j : Json} (h : RestatedBy (.bool b) j) : j = .bool b := by
  cases h
  rfl

theorem RestatedBy.eq_ofText? {t : Option String} {j : Json} (h : RestatedBy (ofText? t) j) :
    j = ofText? t := by
  cases t <;> cases h <;> rfl

theorem RestatedBy.exists_items {items : List Json} {j : Json} (h : RestatedBy (.array items) j) :
    ∃ others, j = .array others ∧ List.Forall₂ RestatedBy items others := by
  cases h with
  | same => exact ⟨items, rfl, List.forall₂_same.2 fun i _ => .same i⟩
  | array values => exact ⟨_, rfl, values⟩

theorem RestatedBy.exists_fields {fields : List (String × Json)} {j : Json}
    (h : RestatedBy (.object fields) j) : ∃ written, j = .object written := by
  cases h with
  | same => exact ⟨fields, rfl⟩
  | object => exact ⟨_, rfl⟩

/-! ### Fields -/

theorem mem_of_lookup {name : String} {v : Json} {fields : List (String × Json)}
    (h : lookup name fields = some v) : (name, v) ∈ fields := by
  induction fields with
  | nil => cases h
  | cons f fields ih =>
    rw [lookup] at h
    split at h
    · next hk =>
      cases h
      exact hk ▸ List.mem_cons_self
    · exact List.mem_cons_of_mem _ (ih h)

theorem lookup_eq_some_of_unique {name : String} {v : Json} {fields : List (String × Json)}
    (hm : (name, v) ∈ fields) (hu : ∀ w, (name, w) ∈ fields → w = v) :
    lookup name fields = some v := by
  induction fields with
  | nil => cases hm
  | cons f fields ih =>
    obtain ⟨key, w⟩ := f
    rw [lookup]
    split
    · next hk =>
      subst hk
      rw [hu w List.mem_cons_self]
    · next hk =>
      have hm : (name, v) ∈ fields := (List.mem_cons.1 hm).resolve_left fun h => hk (by cases h; rfl)
      exact ih hm fun w hw => hu w (List.mem_cons_of_mem _ hw)

/-- A field whose value is restated stands among those that are kept. -/
theorem exists_kept {fields kept : List (String × Json)}
    (names : kept.map Prod.fst = fields.map Prod.fst)
    (values : List.Forall₂ RestatedBy (fields.map Prod.snd) (kept.map Prod.snd)) {name : String}
    {v : Json} (hm : (name, v) ∈ fields) : ∃ w, (name, w) ∈ kept ∧ RestatedBy v w := by
  induction fields generalizing kept with
  | nil => cases hm
  | cons f fields ih =>
    cases kept with
    | nil => cases names
    | cons k kept =>
      simp only [List.map_cons, List.cons.injEq] at names
      obtain ⟨hk, names⟩ := names
      obtain ⟨hv, values⟩ := List.forall₂_cons.1 values
      rcases List.mem_cons.1 hm with rfl | hm
      · have hk : (name, k.2) = k := Prod.ext hk.symm rfl
        exact ⟨k.2, hk ▸ List.mem_cons_self, hv⟩
      · obtain ⟨w, hw, hvw⟩ := ih names values hm
        exact ⟨w, List.mem_cons_of_mem _ hw, hvw⟩

/-- What restates an object holds each of its fields under the same name. -/
theorem RestatedBy.lookup {fields written : List (String × Json)}
    (h : RestatedBy (.object fields) (.object written)) (hn : (fields.map Prod.fst).Nodup)
    (name : String) {v : Json} (hv : lookup name fields = some v) :
    ∃ w, Json.lookup name written = some w ∧ RestatedBy v w := by
  cases h with
  | same => exact ⟨v, hv, .same v⟩
  | object names values unknown order =>
    have hm := mem_of_lookup hv
    obtain ⟨w, hw, hvw⟩ := exists_kept names values hm
    refine ⟨w, lookup_eq_some_of_unique (order.mem_iff.2 (List.mem_append_left _ hw)) ?_, hvw⟩
    intro x hx
    rcases List.mem_append.1 (order.mem_iff.1 hx) with hx | hx
    · exact congrArg Prod.snd (List.inj_on_of_nodup_map (names ▸ hn) hx hw rfl)
    · exact absurd (List.mem_map_of_mem (f := Prod.fst) hm) (unknown (name, x) hx)

/-- A field is read from whatever restates its object, if its value is. -/
theorem RestatedBy.field? {α : Type} {read : Json → Option α} {fields written : List (String × Json)}
    (h : RestatedBy (.object fields) (.object written)) (hn : (fields.map Prod.fst).Nodup)
    (name : String) {v : Json} {x : α} (hv : Json.lookup name fields = some v)
    (hx : ∀ w, RestatedBy v w → read w = some x) : Json.field? written name read = some x := by
  obtain ⟨w, hw, hvw⟩ := h.lookup hn name hv
  rw [Json.field?, hw]
  exact hx w hvw

/-! ### Lists -/

theorem asList?_cons {α : Type} (read : Json → Option α) (j : Json) (items : List Json) :
    asList? read (.array (j :: items)) =
      (read j).bind fun x => (asList? read (.array items)).map (x :: ·) := by
  change (j :: items).mapM read = (read j).bind fun x => (items.mapM read).map (x :: ·)
  rw [List.mapM_cons]
  cases read j with
  | none => rfl
  | some x => cases items.mapM read <;> rfl

theorem asList?_eq_some_iff {α : Type} {read : Json → Option α} {items : List Json} {xs : List α} :
    asList? read (.array items) = some xs ↔
      List.Forall₂ (fun j x => read j = some x) items xs := by
  induction items generalizing xs with
  | nil => simp [asList?, eq_comm]
  | cons j items ih =>
    rw [asList?_cons, Option.bind_eq_some_iff]
    cases xs with
    | nil => simp
    | cons x xs => simp [← ih]

theorem asList?_eq_none {α : Type} {read : Json → Option α} {items : List Json} {j : Json}
    (hj : j ∈ items) (hr : read j = none) : asList? read (.array items) = none := by
  induction items with
  | nil => cases hj
  | cons i items ih =>
    rw [asList?_cons]
    rcases List.mem_cons.1 hj with rfl | hj
    · rw [hr, Option.bind_none]
    · rw [ih hj]
      simp

/-- A list is read from whatever restates it, if each of its items is. -/
theorem RestatedBy.asList? {α : Type} {read : Json → Option α} {write : α → Json}
    (h : ∀ x j, RestatedBy (write x) j → read j = some x) {xs : List α} {j : Json}
    (hj : RestatedBy (.array (xs.map write)) j) : Json.asList? read j = some xs := by
  obtain ⟨others, rfl, hv⟩ := hj.exists_items
  rw [asList?_eq_some_iff]
  rw [List.forall₂_map_left_iff] at hv
  exact hv.flip.imp fun j x hx => h x j hx

/-! ### Fields left out -/

/-- A step from a value to one inside it. -/
inductive Step where
  | field (name : String)
  | item (i : Nat)
  deriving DecidableEq, Repr

/-- The value at the end of a path, if there is one. -/
def at? : List Step → Json → Option Json
  | [], j => some j
  | .field name :: path, .object fields => (lookup name fields).bind (at? path)
  | .item i :: path, .array items => items[i]?.bind (at? path)
  | _, _ => none

/-- Fields with another value under some name. -/
def changeField (change : Json → Json) (name : String) (fields : List (String × Json)) :
    List (String × Json) :=
  fields.map fun f => if f.1 = name then (f.1, change f.2) else f

/-- Fields without those of some name. -/
def dropField (name : String) (fields : List (String × Json)) : List (String × Json) :=
  fields.filter (·.1 ≠ name)

/-- A value without a field of the object at the end of a path. -/
def without (name : String) : List Step → Json → Json
  | [], .object fields => .object (dropField name fields)
  | .field f :: path, .object fields => .object (changeField (without name path) f fields)
  | .item i :: path, .array items => .array (items.modify i (without name path))
  | _, j => j

theorem lookup_changeField (change : Json → Json) (name other : String)
    (fields : List (String × Json)) :
    lookup other (changeField change name fields) =
      if other = name then (lookup other fields).map change else lookup other fields := by
  induction fields with
  | nil => simp [changeField, lookup]
  | cons f fields ih =>
    obtain ⟨key, v⟩ := f
    rw [changeField, List.map_cons, ← changeField]
    by_cases hk : key = other
    · subst hk
      by_cases hn : key = name
      · simp [lookup, hn]
      · simp [lookup, hn]
    · by_cases hn : key = name
      · subst hn
        simp [lookup, hk, ih]
      · simp [lookup, hk, hn, ih]

theorem dropField_cons_of_eq {name : String} {f : String × Json} (h : f.1 = name)
    (fields : List (String × Json)) : dropField name (f :: fields) = dropField name fields :=
  List.filter_cons_of_neg (by simpa using h)

theorem dropField_cons_of_ne {name : String} {f : String × Json} (h : f.1 ≠ name)
    (fields : List (String × Json)) :
    dropField name (f :: fields) = f :: dropField name fields :=
  List.filter_cons_of_pos (by simpa using h)

theorem lookup_dropField (name : String) (fields : List (String × Json)) :
    lookup name (dropField name fields) = none := by
  induction fields with
  | nil => rfl
  | cons f fields ih =>
    by_cases hf : f.1 = name
    · rw [dropField_cons_of_eq hf, ih]
    · rw [dropField_cons_of_ne hf, lookup, if_neg hf, ih]

theorem lookup_dropField_of_ne {name other : String} (h : other ≠ name)
    (fields : List (String × Json)) :
    lookup other (dropField name fields) = lookup other fields := by
  induction fields with
  | nil => rfl
  | cons f fields ih =>
    by_cases hf : f.1 = name
    · have ho : f.1 ≠ other := hf ▸ h.symm
      rw [dropField_cons_of_eq hf, lookup, if_neg ho, ih]
    · rw [dropField_cons_of_ne hf, lookup, lookup, ih]

/-! ### Values without objects -/

/-- No path through a value leads to an object. -/
def IsFlat (j : Json) : Prop := ∀ path fields, at? path j ≠ some (.object fields)

theorem isFlat_text (s : String) : IsFlat (.text s) := by
  rintro (_ | ⟨_ | _, path⟩) fields h <;> cases h

theorem isFlat_bool (b : Bool) : IsFlat (.bool b) := by
  rintro (_ | ⟨_ | _, path⟩) fields h <;> cases h

theorem isFlat_ofText? (t : Option String) : IsFlat (ofText? t) := by
  cases t with
  | none => rintro (_ | ⟨_ | _, path⟩) fields h <;> cases h
  | some s => exact isFlat_text s

theorem isFlat_array {items : List Json} (h : ∀ j ∈ items, IsFlat j) : IsFlat (.array items) := by
  rintro (_ | ⟨_ | i, path⟩) fields hp
  · cases hp
  · cases hp
  · obtain ⟨j, hj, hp⟩ := Option.bind_eq_some_iff.1 hp
    exact h j (List.mem_of_getElem? hj) path fields hp

theorem isFlat_ofTexts (ts : List String) : IsFlat (ofTexts ts) := by
  refine isFlat_array fun j hj => ?_
  obtain ⟨s, -, rfl⟩ := List.mem_map.1 hj
  exact isFlat_text s

/-- An object whose fields are flat is the only object in it. -/
theorem at?_of_isFlat {fields found : List (String × Json)} {path : List Step}
    (h : ∀ f ∈ fields, IsFlat f.2) (hp : at? path (.object fields) = some (.object found)) :
    path = [] ∧ found = fields := by
  rcases path with _ | ⟨name | i, path⟩
  · cases hp
    exact ⟨rfl, rfl⟩
  · obtain ⟨v, hv, hp⟩ := Option.bind_eq_some_iff.1 hp
    exact absurd hp (h (name, v) (mem_of_lookup hv) path found)
  · cases hp

end TableFeed.Json
