import TableFeed.Proofs.Model.Wire

/-!
# What a reader of models tolerates

A written model holds one object for itself and one for each of its columns or rows. In all of
these the fields may change places and further fields may be added: the model that is read stays
the same. None of the fields that a model is written with may be missing, except the default of a
column, which is then missing in the model too.

    {"resultKind": "insert", "tableName": …, "columnNames": …, "rows": [{"values": …}, …]}
    └── whole                                                          └── row 0
-/

namespace TableFeed

namespace Json

variable {fields written : List (String × Json)} {name : String}

theorem field?_eq_none {α : Type} {read : Json → Option α}
    (h : Json.lookup name written = none) : Json.field? written name read = none := by
  rw [Json.field?, h, Option.bind_none]

/-- Lists of items read one by one, with one item changed on both sides. -/
theorem forall₂_modify {α β : Type} {R S : α → β → Prop} {f : α → α} {g : β → β} {as : List α}
    {bs : List β} (h : List.Forall₂ R as bs) (hRS : ∀ a b, R a b → S a b)
    (hfg : ∀ a b, R a b → S (f a) (g b)) (i : Nat) :
    List.Forall₂ S (as.modify i f) (bs.modify i g) := by
  induction h generalizing i with
  | nil => simp
  | cons hab h ih =>
    cases i with
    | zero => simpa using ⟨hfg _ _ hab, h.imp hRS⟩
    | succ i => simpa using ⟨hRS _ _ hab, ih i⟩

theorem exists_of_getElem? {α β : Type} {R : α → β → Prop} {as : List α} {bs : List β}
    (h : List.Forall₂ R as bs) {i : Nat} {a : α} (ha : as[i]? = some a) :
    ∃ b, bs[i]? = some b ∧ R a b := by
  induction h generalizing i with
  | nil => simp at ha
  | @cons a' b as bs hab h ih =>
    cases i with
    | zero =>
      cases ha
      exact ⟨b, rfl, hab⟩
    | succ i => exact ih ha

/-- A list is not read if one of its items is not read without some field. -/
theorem asList?_without {α : Type} {read : Json → Option α} {write : α → Json}
    (hr : ∀ x j, RestatedBy (write x) j → read (j.without name []) = none) {xs : List α}
    {items : List Json} (h : List.Forall₂ RestatedBy (xs.map write) items) {i : Nat} {x : α}
    (hx : xs[i]? = some x) :
    Json.asList? read ((Json.array items).without name [.item i]) = none := by
  have hw : (xs.map write)[i]? = some (write x) := by rw [List.getElem?_map, hx, Option.map_some]
  obtain ⟨j, hj, hxj⟩ := exists_of_getElem? h hw
  have hm : (items.modify i (Json.without name []))[i]? = some (j.without name []) := by
    rw [List.getElem?_modify_eq, hj]
    rfl
  exact asList?_eq_none (List.mem_of_getElem? hm) (hr x j hxj)

end Json

namespace Model

open Json

theorem rowOfJson?_of_lookup {written : List (String × Json)}
    (h : lookup "values" written = none) : rowOfJson? (.object written) = none :=
  field?_eq_none h

namespace Column

variable {c : Column} {written : List (String × Json)}

/-- A column without its default is read, with its default missing. -/
theorem ofJson?_without_default (c : Column) (j : Json) (h : RestatedBy c.toJson j) :
    Column.ofJson? (j.without "default" []) = some { c with default := none } := by
  obtain ⟨written, rfl⟩ := h.exists_fields
  have hn := c.nodup_fields
  have hd {α : Type} {read : Json → Option α} {name : String} (hne : name ≠ "default") :
      field? (dropField "default" written) name read = field? written name read := by
    rw [field?, field?, lookup_dropField_of_ne hne]
  simp only [Json.without, Column.ofJson?, record?, Option.bind_eq_bind, Option.bind_some]
  rw [hd (by decide), hd (by decide), hd (by decide), hd (by decide), hd (by decide),
    h.textField hn "columnName" rfl, h.textField hn "dataType" rfl,
    h.boolField hn "isNullable" rfl, h.boolField hn "isPrimaryKey" rfl,
    h.boolField hn "isUnique" rfl, optionalText?, lookup_dropField]
  rfl

/-- A column without any other field is not read. -/
theorem ofJson?_eq_none {name : String} (hm : name ∈ c.fields.map Prod.fst)
    (hne : name ≠ "default") (h : lookup name written = none) :
    Column.ofJson? (.object written) = none := by
  have hf {α : Type} (read : Json → Option α) : field? written name read = none := field?_eq_none h
  simp only [Column.fields, List.map_cons, List.map_nil, List.mem_cons, List.not_mem_nil,
    or_false] at hm
  simp only [Column.ofJson?, record?, Option.bind_eq_bind, Option.bind_some]
  rcases hm with rfl | rfl | rfl | rfl | rfl | rfl
  · simp [hf]
  · simp [hf]
  · simp [hf]
  · exact absurd rfl hne
  · simp [hf]
  · simp [hf]

end Column

/-! ### The model -/

variable {m : Model} {written : List (String × Json)}

/-- A model without any of its fields is not read. -/
theorem ofJson?_eq_none {name : String} (hm : name ∈ "resultKind" :: m.fields.map Prod.fst)
    (hk : name ≠ "resultKind" → lookup "resultKind" written = some (.text m.tag))
    (h : lookup name written = none) : ofJson? (.object written) = none := by
  have hf {α : Type} (read : Json → Option α) : field? written name read = none := field?_eq_none h
  by_cases hname : name = "resultKind"
  · subst hname
    simp [ofJson?, hf]
  · have hm : name ∈ m.fields.map Prod.fst := (List.mem_cons.1 hm).resolve_left hname
    rw [ofJson?_object (hk hname)]
    cases m with
    | createTable t =>
      simp only [fields, NewTable.fields, List.map_cons, List.map_nil, List.mem_cons,
        List.not_mem_nil, or_false] at hm
      rcases hm with rfl | rfl
      · simp [ofTagged?, tag, NewTable.ofJson?, record?, hf]
      · simp [ofTagged?, tag, NewTable.ofJson?, record?, hf]
    | insert i =>
      simp only [fields, Insertion.fields, List.map_cons, List.map_nil, List.mem_cons,
        List.not_mem_nil, or_false] at hm
      rcases hm with rfl | rfl | rfl
      · simp [ofTagged?, tag, Insertion.ofJson?, record?, hf]
      · simp [ofTagged?, tag, Insertion.ofJson?, record?, hf]
      · simp [ofTagged?, tag, Insertion.ofJson?, record?, hf]
    | dropTable r =>
      simp only [fields, Removal.fields, List.map_cons, List.map_nil, List.mem_cons,
        List.not_mem_nil, or_false] at hm
      rcases hm with rfl | rfl | rfl
      · simp [ofTagged?, tag, Removal.ofJson?, record?, hf]
      · simp [ofTagged?, tag, Removal.ofJson?, record?, hf]
      · simp [ofTagged?, tag, Removal.ofJson?, record?, hf]

theorem ofJson?_without (h : RestatedBy m.toJson (.object written)) {name : String}
    (hm : name ∈ "resultKind" :: m.fields.map Prod.fst) :
    ofJson? ((Json.object written).without name []) = none := by
  refine ofJson?_eq_none hm (fun hne => ?_) (lookup_dropField name written)
  obtain ⟨w, hw, hk⟩ := h.lookup m.nodup_fields "resultKind" rfl
  rw [lookup_dropField_of_ne hne.symm, hw, hk.eq_text]

/-! ### The objects of a model -/

/-- The objects of a written model are itself, its columns and its rows. -/
inductive HoldsObject : Model → List Step → List (String × Json) → Prop where
  | whole (m : Model) : HoldsObject m [] (("resultKind", .text m.tag) :: m.fields)
  | column {t : NewTable} {i : Nat} {c : Column} (h : t.columns[i]? = some c) :
      HoldsObject (.createTable t) [.field "columns", .item i] c.fields
  | row {n : Insertion} {i : Nat} {r : Row} (h : n.rows[i]? = some r) :
      HoldsObject (.insert n) [.field "rows", .item i] (rowFields r)

theorem Column.isFlat_fields (c : Column) : ∀ f ∈ c.fields, IsFlat f.2 := by
  simp [Column.fields, isFlat_text, isFlat_bool, isFlat_ofText?]

theorem isFlat_rowFields (r : Row) : ∀ f ∈ rowFields r, IsFlat f.2 := by
  simp only [rowFields, List.mem_singleton, forall_eq]
  refine isFlat_array fun j hj => ?_
  obtain ⟨t, -, rfl⟩ := List.mem_map.1 hj
  exact isFlat_ofText? t

/-- An object in a list of objects without objects inside is one of these. -/
theorem exists_item {α : Type} {write : α → List (String × Json)}
    (hw : ∀ x, ∀ f ∈ write x, IsFlat f.2) {xs : List α} {path : List Step}
    {found : List (String × Json)}
    (h : at? path (.array (xs.map fun x => .object (write x))) = some (.object found)) :
    ∃ i x, path = [.item i] ∧ xs[i]? = some x ∧ found = write x := by
  rcases path with _ | ⟨name | i, path⟩
  · cases h
  · cases h
  · obtain ⟨j, hj, h⟩ := Option.bind_eq_some_iff.1 h
    rw [List.getElem?_map] at hj
    obtain ⟨x, hx, rfl⟩ := Option.map_eq_some_iff.1 hj
    obtain ⟨rfl, rfl⟩ := at?_of_isFlat (hw x) h
    exact ⟨i, x, rfl, hx, rfl⟩

theorem holdsObject {path : List Step} {found : List (String × Json)}
    (h : at? path m.toJson = some (.object found)) : HoldsObject m path found := by
  rcases path with _ | ⟨name | i, path⟩
  · cases h
    exact .whole m
  · obtain ⟨v, hv, h⟩ := Option.bind_eq_some_iff.1 h
    have hv := mem_of_lookup hv
    cases m with
    | createTable t =>
      simp only [fields, NewTable.fields, List.mem_cons, Prod.mk.injEq, List.not_mem_nil,
        or_false] at hv
      rcases hv with ⟨rfl, rfl⟩ | ⟨rfl, rfl⟩ | ⟨rfl, rfl⟩
      · exact absurd h (isFlat_text _ _ _)
      · exact absurd h (isFlat_text _ _ _)
      · obtain ⟨i, c, rfl, hc, rfl⟩ := exists_item Column.isFlat_fields h
        exact .column hc
    | insert n =>
      simp only [fields, Insertion.fields, List.mem_cons, Prod.mk.injEq, List.not_mem_nil,
        or_false] at hv
      rcases hv with ⟨rfl, rfl⟩ | ⟨rfl, rfl⟩ | ⟨rfl, rfl⟩ | ⟨rfl, rfl⟩
      · exact absurd h (isFlat_text _ _ _)
      · exact absurd h (isFlat_text _ _ _)
      · exact absurd h (isFlat_ofTexts _ _ _)
      · obtain ⟨i, r, rfl, hr, rfl⟩ := exists_item isFlat_rowFields h
        exact .row hr
    | dropTable r =>
      simp only [fields, Removal.fields, List.mem_cons, Prod.mk.injEq, List.not_mem_nil,
        or_false] at hv
      rcases hv with ⟨rfl, rfl⟩ | ⟨rfl, rfl⟩ | ⟨rfl, rfl⟩ | ⟨rfl, rfl⟩
      · exact absurd h (isFlat_text _ _ _)
      · exact absurd h (isFlat_ofTexts _ _ _)
      · exact absurd h (isFlat_bool _ _ _)
      · exact absurd h (isFlat_bool _ _ _)
  · cases h

/-! ### Columns and rows of a model -/

/-- A change of one field of a model leaves the kind as it is. -/
theorem ofJson?_changeField (h : RestatedBy m.toJson (.object written)) (change : Json → Json)
    {name : String} (hne : name ≠ "resultKind") :
    ofJson? (.object (changeField change name written)) =
      ofTagged? m.tag (.object (changeField change name written)) := by
  obtain ⟨w, hw, hk⟩ := h.lookup m.nodup_fields "resultKind" rfl
  refine ofJson?_object ?_
  rw [lookup_changeField, if_neg hne.symm, hw, hk.eq_text]

/-- Columns are read as if the table held nothing else. -/
theorem ofJson?_change_columns {t : NewTable}
    (h : RestatedBy (toJson (.createTable t)) (.object written)) (change : Json → Json) :
    ∃ items, List.Forall₂ RestatedBy (t.columns.map Column.toJson) items ∧
      ofJson? (.object (changeField change "columns" written)) =
        (asList? Column.ofJson? (change (.array items))).map
          fun cs => .createTable { t with columns := cs } := by
  have hn := nodup_fields (.createTable t)
  have hname : field? written "tableName" asText? = some t.name := h.textField hn _ rfl
  obtain ⟨w, hw, hc⟩ := h.lookup hn "columns" rfl
  obtain ⟨items, rfl, hitems⟩ := hc.exists_items
  refine ⟨items, hitems, ?_⟩
  have hname : field? (changeField change "columns" written) "tableName" asText? = some t.name := by
    rw [← hname, field?, field?, lookup_changeField, if_neg (by decide)]
  have hcolumns : field? (changeField change "columns" written) "columns"
      (asList? Column.ofJson?) = asList? Column.ofJson? (change (.array items)) := by
    rw [field?, lookup_changeField, if_pos rfl, hw]
    rfl
  rw [ofJson?_changeField h change (by decide)]
  simp only [ofTagged?, tag, if_pos, NewTable.ofJson?, record?, Option.bind_eq_bind,
    Option.bind_some, hname, hcolumns]
  cases asList? Column.ofJson? (change (.array items)) <;> rfl

/-- Rows are read as if the insertion held nothing else. -/
theorem ofJson?_change_rows {n : Insertion}
    (h : RestatedBy (toJson (.insert n)) (.object written)) (change : Json → Json) :
    ∃ items, List.Forall₂ RestatedBy (n.rows.map rowJson) items ∧
      ofJson? (.object (changeField change "rows" written)) =
        (asList? rowOfJson? (change (.array items))).map fun rs => .insert { n with rows := rs } := by
  have hn := nodup_fields (.insert n)
  have hname : field? written "tableName" asText? = some n.table := h.textField hn _ rfl
  have hcolumns : field? written "columnNames" (asList? asText?) = some n.columns :=
    RestatedBy.listField asText?_of_restatedBy h hn _ rfl
  obtain ⟨w, hw, hr⟩ := h.lookup hn "rows" rfl
  obtain ⟨items, rfl, hitems⟩ := hr.exists_items
  refine ⟨items, hitems, ?_⟩
  have hother {α : Type} {read : Json → Option α} {name : String} (hne : name ≠ "rows") :
      field? (changeField change "rows" written) name read = field? written name read := by
    rw [field?, field?, lookup_changeField, if_neg hne]
  have hrows : field? (changeField change "rows" written) "rows" (asList? rowOfJson?) =
      asList? rowOfJson? (change (.array items)) := by
    rw [field?, lookup_changeField, if_pos rfl, hw]
    rfl
  rw [ofJson?_changeField h change (by decide)]
  simp only [ofTagged?, tag, Insertion.ofJson?, record?, Option.bind_eq_bind, Option.bind_some,
    hother (show "tableName" ≠ "rows" by decide), hother (show "columnNames" ≠ "rows" by decide),
    hname, hcolumns, hrows]
  cases asList? rowOfJson? (change (.array items)) <;> rfl

theorem ofJson?_without_default {t : NewTable}
    (h : RestatedBy (toJson (.createTable t)) (.object written)) (i : Nat) :
    ofJson? ((Json.object written).without "default" [.field "columns", .item i]) =
      some (.createTable
        { t with columns := t.columns.modify i fun c => { c with default := none } }) := by
  obtain ⟨items, hitems, hread⟩ := ofJson?_change_columns h (Json.without "default" [.item i])
  have hcolumns : List.Forall₂ (fun j c => Column.ofJson? j = some c)
      (items.modify i (Json.without "default" []))
      (t.columns.modify i fun c => { c with default := none }) := by
    rw [List.forall₂_map_left_iff] at hitems
    refine forall₂_modify hitems.flip (fun j c hc => ?_) (fun j c hc => ?_) i
    · exact Column.ofJson?_of_restatedBy c j hc
    · exact Column.ofJson?_without_default c j hc
  have hlist := asList?_eq_some_iff.2 hcolumns
  exact hread.trans (congrArg _ hlist)

theorem ofJson?_without_column {t : NewTable}
    (h : RestatedBy (toJson (.createTable t)) (.object written)) {name : String}
    (hne : name ≠ "default") {i : Nat} {c : Column} (hc : t.columns[i]? = some c)
    (hm : name ∈ c.fields.map Prod.fst) :
    ofJson? ((Json.object written).without name [.field "columns", .item i]) = none := by
  obtain ⟨items, hitems, hread⟩ := ofJson?_change_columns h (Json.without name [.item i])
  have hnone : ∀ d j, RestatedBy (Column.toJson d) j → Column.ofJson? (j.without name []) = none := by
    intro d j hj
    obtain ⟨ws, rfl⟩ := hj.exists_fields
    exact Column.ofJson?_eq_none (c := c) hm hne (lookup_dropField name ws)
  exact hread.trans (congrArg _ (asList?_without hnone hitems hc))

theorem ofJson?_without_row {n : Insertion}
    (h : RestatedBy (toJson (.insert n)) (.object written)) {i : Nat} {r : Row}
    (hr : n.rows[i]? = some r) :
    ofJson? ((Json.object written).without "values" [.field "rows", .item i]) = none := by
  obtain ⟨items, hitems, hread⟩ := ofJson?_change_rows h (Json.without "values" [.item i])
  have hnone : ∀ s j, RestatedBy (rowJson s) j → rowOfJson? (j.without "values" []) = none := by
    intro s j hj
    obtain ⟨ws, rfl⟩ := hj.exists_fields
    exact rowOfJson?_of_lookup (lookup_dropField "values" ws)
  exact hread.trans (congrArg _ (asList?_without hnone hitems hr))

/-! ### Reading again -/

/-- A written model is read as the model, also if any of its objects has its fields in another
order or among others. Without the default of a column it is read as the model without that
default; without any other field of any of its objects it is not read. -/
theorem ofJson?_restated {m : Model} {j : Json} (h : RestatedBy m.toJson j) :
    ofJson? j = some m ∧
    (∀ t, m = .createTable t → ∀ i,
      ofJson? (j.without "default" [.field "columns", .item i]) = some (.createTable
        { t with columns := t.columns.modify i fun c => { c with default := none } })) ∧
    ∀ path found name, at? path m.toJson = some (.object found) → name ∈ found.map Prod.fst →
      name ≠ "default" → ofJson? (j.without name path) = none := by
  obtain ⟨written, rfl⟩ := h.exists_fields
  refine ⟨ofJson?_of_restatedBy h, ?_, ?_⟩
  · rintro t rfl i
    exact ofJson?_without_default h i
  · intro path found name hp hm hne
    cases holdsObject hp with
    | whole => exact ofJson?_without h hm
    | column hc => exact ofJson?_without_column h hne hc hm
    | row hr =>
      obtain rfl := List.mem_singleton.1 hm
      exact ofJson?_without_row h hr

/-- `CREATE TABLE t (a INT DEFAULT 1, b TEXT NOT NULL)` with no default in the second column. -/
def twoColumns : NewTable where
  name := "t"
  columns :=
    [{ name := "a", dataType := "INT", default := some "1" },
     { name := "b", dataType := "TEXT", nullable := false, default := none }]

/-- The first column with its fields from last to first, behind a note. -/
def reversedColumn : Json :=
  .object
    [("note", .object [("default", .bool true)]), ("isUnique", .bool false),
      ("isPrimaryKey", .bool false), ("default", .text "1"), ("isNullable", .bool true),
      ("dataType", .text "INT"), ("columnName", .text "a")]

/-- The columns of the table, the first one reversed. -/
def reversedColumns : Json :=
  .array
    [reversedColumn,
      .object
        [("columnName", .text "b"), ("dataType", .text "TEXT"), ("isNullable", .bool false),
          ("default", .null), ("isPrimaryKey", .bool false), ("isUnique", .bool false)]]

/-- The table with its fields from last to first, behind a note. -/
def reversedTable : Json :=
  .object
    [("note", .null), ("columns", reversedColumns), ("tableName", .text "t"),
      ("resultKind", .text "createTable")]

theorem restatedBy_reversedTable : RestatedBy (toJson (.createTable twoColumns)) reversedTable := by
  let first : Column := { name := "a", dataType := "INT", default := some "1" }
  let columnNote : List (String × Json) := [("note", .object [("default", .bool true)])]
  let tableNote : List (String × Json) := [("note", .null)]
  have hcolumn : RestatedBy first.toJson reversedColumn :=
    .object rfl (List.forall₂_same.2 fun v _ => .same v) (by decide)
      (List.reverse_perm (first.fields ++ columnNote))
  have hcolumns : RestatedBy (.array (twoColumns.columns.map Column.toJson)) reversedColumns :=
    .array (.cons hcolumn (.cons (.same _) .nil))
  let kept : List (String × Json) :=
    [("resultKind", .text "createTable"), ("tableName", .text "t"), ("columns", reversedColumns)]
  exact @RestatedBy.object _ kept tableNote _ rfl
    (.cons (.same _) (.cons (.same _) (.cons hcolumns .nil))) (by decide)
    (List.reverse_perm (kept ++ tableNote))

/-- The order and the notes make no difference; each field but the default is asked for. -/
theorem ofJson?_reversedTable :
    RestatedBy (toJson (.createTable twoColumns)) reversedTable ∧
      ofJson? reversedTable = some (.createTable twoColumns) ∧
      ofJson? (reversedTable.without "default" [.field "columns", .item 0]) = some (.createTable
        { name := "t", columns :=
          [{ name := "a", dataType := "INT", default := none },
           { name := "b", dataType := "TEXT", nullable := false, default := none }] }) ∧
      ofJson? (reversedTable.without "isUnique" [.field "columns", .item 1]) = none ∧
      ofJson? (reversedTable.without "resultKind" []) = none := by
  obtain ⟨hread, hdefault, hnone⟩ := ofJson?_restated restatedBy_reversedTable
  exact ⟨restatedBy_reversedTable, hread, hdefault twoColumns rfl 0,
    hnone [.field "columns", .item 1] _ "isUnique" rfl (by decide) (by decide),
    hnone [] _ "resultKind" rfl (by decide) (by decide)⟩

end Model

end TableFeed
