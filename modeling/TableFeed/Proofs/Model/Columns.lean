import Mathlib.Data.List.Basic
import Mathlib.Data.List.Induction
import TableFeed.Model.OfStatement

/-!
# The columns of a created table

What a `CREATE TABLE` says about a column by its name goes to the first column of that name among
those declared so far. The outcome does not depend on that order: a column is in the primary key
exactly if it is the first one of its name and the name is in the primary key somewhere.

    CREATE TABLE t (a INT, b INT, a INT PRIMARY KEY, UNIQUE (b), PRIMARY KEY (b, z))

    declared   a        b        a
    recorded   a (key)  b (key)  a

The columns at any moment are `marked keys [] declared`, where `keys` are the names met so far; a
further column changes neither the marks in front of it nor gets one, for `keys` holds names of
declared columns only until the constraints come, and then there are no more columns.
-/

namespace TableFeed.Model

open TableFeed Sql

/-! ### What a statement says -/

/-- Whether an option says if a column takes nulls. -/
def speaksOfNulls : ColumnOption → Bool
  | .null | .notNull => true
  | _ => false

/-- The default that an option gives. -/
def defaultOf? : ColumnOption → Option Expr
  | .default e => some e
  | _ => none

/-- How a default is recorded, or that there is none. -/
def recordedDefault : Option Expr → String
  | some e => normalizeDefault e.render
  | none => ""

/-- A name is in the primary key: by an option of a column of that name, or by a constraint. -/
def InPrimaryKey (t : CreateTable) (name : String) : Prop :=
  (∃ d ∈ t.columns, d.name.text = name ∧ .primaryKey ∈ d.options) ∨
    ∃ keys, .primaryKey keys ∈ t.constraints ∧ name ∈ keys.map keyName

/-- A statement without foreign keys and indexes. -/
structure Supported (t : CreateTable) : Prop where
  options : ∀ d ∈ t.columns, .foreignKey ∉ d.options
  constraints : ∀ c ∈ t.constraints, c ≠ .foreignKey ∧ c ≠ .index ∧ c ≠ .fulltextOrSpatial

/-- The column `c` records the `i`-th column `d` of a statement. -/
structure Records (t : CreateTable) (i : Nat) (d : Sql.Column) (c : Column) : Prop where
  name : c.name = d.name.text
  dataType : c.dataType = d.dataType
  nullable : c.nullable = false ↔ (d.options.filter speaksOfNulls).getLast? = some .notNull
  default : c.default = some (recordedDefault (d.options.filterMap defaultOf?).getLast?)
  unique : c.unique = false
  primaryKey : c.primaryKey = true ↔
    (∀ e ∈ t.columns.take i, e.name.text ≠ d.name.text) ∧ InPrimaryKey t d.name.text

/-- A column without checks and keys that are not primary. -/
def bareColumn (d : Sql.Column) : Sql.Column :=
  { d with options := d.options.filter fun
      | .check | .unique => false
      | _ => true }

/-- A constraint of columns with the given names, unless it is a check or a key that is not
primary; other names are left out of a primary key. -/
def bareConstraint? (names : List String) : TableConstraint → Option TableConstraint
  | .check | .unique _ => none
  | .primaryKey keys => some (.primaryKey (keys.filter (keyName · ∈ names)))
  | c => some c

/-- A statement without checks, keys that are not primary, and unknown names in the primary key. -/
def bare (t : CreateTable) : CreateTable :=
  { t with
    columns := t.columns.map bareColumn
    constraints := t.constraints.filterMap (bareConstraint? (t.columns.map (·.name.text))) }

/-! ### The last of some options -/

theorem isNullable_eq_false_iff (os : List ColumnOption) :
    isNullable os = false ↔ (os.filter speaksOfNulls).getLast? = some .notNull := by
  induction os using List.reverseRecOn with
  | nil => simp [isNullable]
  | append_singleton os o ih =>
    rw [isNullable] at ih ⊢
    rw [List.foldl_append, List.filter_append]
    cases o <;> simp [speaksOfNulls, ih]

theorem lastDefault_eq_getLast? (os : List ColumnOption) :
    lastDefault os = (os.filterMap defaultOf?).getLast? := by
  induction os using List.reverseRecOn with
  | nil => rfl
  | append_singleton os o ih =>
    rw [lastDefault] at ih ⊢
    rw [List.foldl_append, List.filterMap_append]
    cases o <;> simp [defaultOf?, ih]

/-! ### Marks -/

/-- Columns as they are recorded if `keys` are in the primary key, behind columns of `earlier`
names. -/
def marked (keys : List String) : List String → List Sql.Column → List Column
  | _, [] => []
  | earlier, d :: ds =>
    { Column.ofSql d with primaryKey := d.name.text ∉ earlier ∧ d.name.text ∈ keys } ::
      marked keys (earlier ++ [d.name.text]) ds

theorem marked_append (keys earlier : List String) (front back : List Sql.Column) :
    marked keys earlier (front ++ back) =
      marked keys earlier front ++ marked keys (earlier ++ front.map (·.name.text)) back := by
  induction front generalizing earlier with
  | nil => simp [marked]
  | cons d front ih => simp [marked, ih]

theorem length_marked (keys earlier : List String) (ds : List Sql.Column) :
    (marked keys earlier ds).length = ds.length := by
  induction ds generalizing earlier with
  | nil => rfl
  | cons d ds ih => rw [marked, List.length_cons, List.length_cons, ih]

theorem getElem?_marked (keys earlier : List String) (ds : List Sql.Column) (i : Nat) :
    (marked keys earlier ds)[i]? = ds[i]?.map fun d =>
      { Column.ofSql d with
        primaryKey :=
          d.name.text ∉ earlier ++ (ds.take i).map (·.name.text) ∧ d.name.text ∈ keys } := by
  induction ds generalizing earlier i with
  | nil => simp [marked]
  | cons d ds ih =>
    cases i with
    | zero => simp [marked]
    | succ i => simp [marked, ih]

/-- Only the names of columns without a column of that name in front matter. -/
theorem marked_congr {keys keys' earlier : List String} {ds : List Sql.Column}
    (h : ∀ d ∈ ds, d.name.text ∉ earlier → (d.name.text ∈ keys ↔ d.name.text ∈ keys')) :
    marked keys earlier ds = marked keys' earlier ds := by
  induction ds generalizing earlier with
  | nil => rfl
  | cons d ds ih =>
    have hd : (d.name.text ∉ earlier ∧ d.name.text ∈ keys) ↔
        (d.name.text ∉ earlier ∧ d.name.text ∈ keys') := and_congr_right (h d (by simp))
    have hds : marked keys (earlier ++ [d.name.text]) ds =
        marked keys' (earlier ++ [d.name.text]) ds :=
      ih fun e he hne => h e (by simp [he]) fun hm => hne (by simp [hm])
    simp only [marked, hd, hds]

theorem marked_map_bareColumn (keys earlier : List String) (ds : List Sql.Column) :
    marked keys earlier (ds.map bareColumn) = marked keys earlier ds := by
  have hc (d : Sql.Column) : Column.ofSql (bareColumn d) = Column.ofSql d := by
    have hn : isNullable (bareColumn d).options = isNullable d.options := by
      rw [Bool.eq_iff_iff, ← not_iff_not, Bool.not_eq_true, Bool.not_eq_true,
        isNullable_eq_false_iff, isNullable_eq_false_iff, bareColumn, List.filter_filter]
      congr! 4 with o
      cases o <;> rfl
    have hl : lastDefault (bareColumn d).options = lastDefault d.options := by
      rw [lastDefault_eq_getLast?, lastDefault_eq_getLast?, bareColumn, List.filterMap_filter]
      congr! 2 with o
      cases o <;> rfl
    simp only [Column.ofSql, hn, hl]
    rfl
  induction ds generalizing earlier with
  | nil => rfl
  | cons d ds ih =>
    rw [List.map_cons, marked, marked, hc, ih]
    rfl

/-! ### Keys -/

/-- A name becomes part of the primary key. -/
theorem changeFirst_primary_marked {name : String} {keys earlier : List String}
    (hn : name ∉ earlier) (ds : List Sql.Column) :
    changeFirst (Column.inKey .primary) name (marked keys earlier ds) =
      marked (keys ++ [name]) earlier ds := by
  induction ds generalizing earlier with
  | nil => rfl
  | cons d ds ih =>
    by_cases hd : d.name.text = name
    · -- no column behind this one can be the first of its name
      have hds : marked keys (earlier ++ [name]) ds =
          marked (keys ++ [name]) (earlier ++ [name]) ds := by
        refine marked_congr fun e _ he => ?_
        have hne : e.name.text ≠ name := fun hm => he (by simp [hm])
        simp [hne]
      simp [marked, changeFirst, Column.ofSql, Column.inKey, hd, hn, hds]
    · have hearlier : name ∉ earlier ++ [d.name.text] := by simp [hn, Ne.symm hd]
      simp [marked, changeFirst, Column.ofSql, hd, ih hearlier]

/-- No column is ever marked as unique, so that there is no mark to take away. -/
theorem changeFirst_unique_marked (name : String) (keys earlier : List String)
    (ds : List Sql.Column) :
    changeFirst (Column.inKey .unique) name (marked keys earlier ds) = marked keys earlier ds := by
  induction ds generalizing earlier with
  | nil => rfl
  | cons d ds ih =>
    simp only [marked, changeFirst, ih]
    split
    · rfl
    · rfl

/-- The names that an element puts into the primary key. -/
def Element.primaryNames : Element → List String
  | .key .primary names => names
  | .key .unique _ | .column _ | .passed | .refused _ => []

/-- Whether an element neither adds a column nor is refused. -/
def Element.isMark : Element → Bool
  | .key _ _ | .passed => true
  | .column _ | .refused _ => false

namespace NewTable

/-- The names of a key are marked one after the other. -/
theorem foldl_addKey_marked (n : String) (kind : KeyKind) (names keys : List String)
    (ds : List Sql.Column) :
    names.foldl (NewTable.addKey · kind ·) ⟨n, marked keys [] ds⟩ =
      ⟨n, marked (keys ++ (Element.key kind names).primaryNames) [] ds⟩ := by
  cases kind with
  | primary =>
    induction names generalizing keys with
    | nil => simp [Element.primaryNames]
    | cons name names ih =>
      rw [List.foldl_cons, addKey, changeFirst_primary_marked List.not_mem_nil, ih]
      simp [Element.primaryNames]
  | unique =>
    rw [Element.primaryNames, List.append_nil]
    induction names with
    | nil => rfl
    | cons name names ih => rw [List.foldl_cons, addKey, changeFirst_unique_marked, ih]

theorem add_marked {e : Element} (he : e.isMark) (n : String) (keys : List String)
    (ds : List Sql.Column) :
    add ⟨n, marked keys [] ds⟩ e = .ok ⟨n, marked (keys ++ e.primaryNames) [] ds⟩ := by
  cases e with
  | column c => cases he
  | key kind names => rw [add, foldl_addKey_marked]
  | passed => simp [add, Element.primaryNames]
  | refused name => cases he

theorem addAll_marked {es : List Element} (hes : ∀ e ∈ es, e.isMark) (n : String)
    (keys : List String) (ds : List Sql.Column) :
    addAll ⟨n, marked keys [] ds⟩ es =
      .ok ⟨n, marked (keys ++ es.flatMap Element.primaryNames) [] ds⟩ := by
  induction es generalizing keys with
  | nil => simp [addAll]
  | cons e es ih =>
    obtain ⟨he, hes⟩ := List.forall_mem_cons.1 hes
    rw [addAll, add_marked he]
    simp [ih hes]

theorem addAll_append {t u : NewTable} {es : List Element} (h : t.addAll es = .ok u)
    (fs : List Element) : t.addAll (es ++ fs) = u.addAll fs := by
  induction es generalizing t with
  | nil =>
    cases h
    rfl
  | cons e es ih =>
    simp only [addAll, List.cons_append] at h ⊢
    split at h
    · exact ih h
    · cases h

end NewTable

/-! ### The statement as a whole -/

/-- What a column and its options mean. -/
def columnElements (d : Sql.Column) : List Element :=
  .column d :: d.options.map (Element.ofOption d.name)

theorem isMark_ofOption {o : ColumnOption} (name : Ident) (ho : o ≠ .foreignKey) :
    (Element.ofOption name o).isMark := by
  cases o <;> first | rfl | exact absurd rfl ho

theorem isMark_ofConstraint {c : TableConstraint}
    (hc : c ≠ .foreignKey ∧ c ≠ .index ∧ c ≠ .fulltextOrSpatial) :
    (Element.ofConstraint c).isMark := by
  obtain ⟨hf, hi, hs⟩ := hc
  cases c <;> first | rfl | contradiction

theorem mem_primaryNames_ofOption {column : Ident} {o : ColumnOption} {name : String} :
    name ∈ (Element.ofOption column o).primaryNames ↔ o = .primaryKey ∧ column.text = name := by
  cases o <;> simp [Element.ofOption, Element.primaryNames, eq_comm]

theorem mem_primaryNames_ofConstraint {c : TableConstraint} {name : String} :
    name ∈ (Element.ofConstraint c).primaryNames ↔
      ∃ keys, c = .primaryKey keys ∧ name ∈ keys.map keyName := by
  cases c <;> simp [Element.ofConstraint, Element.primaryNames]

theorem mem_primaryNames_columnElements {d : Sql.Column} {name : String} :
    name ∈ (columnElements d).flatMap Element.primaryNames ↔
      .primaryKey ∈ d.options ∧ d.name.text = name := by
  have hd : (columnElements d).flatMap Element.primaryNames =
      (d.options.map (Element.ofOption d.name)).flatMap Element.primaryNames := rfl
  simp [hd, List.flatMap_map, mem_primaryNames_ofOption]

theorem mem_primaryNames_elements {t : CreateTable} {name : String} :
    name ∈ (elements t).flatMap Element.primaryNames ↔ InPrimaryKey t name := by
  have hc : name ∈ (t.columns.flatMap columnElements).flatMap Element.primaryNames ↔
      ∃ d ∈ t.columns, d.name.text = name ∧ .primaryKey ∈ d.options := by
    rw [List.flatMap_assoc, List.mem_flatMap]
    simp only [mem_primaryNames_columnElements, and_comm]
  have hk : name ∈ (t.constraints.map Element.ofConstraint).flatMap Element.primaryNames ↔
      ∃ keys, .primaryKey keys ∈ t.constraints ∧ name ∈ keys.map keyName := by
    simp only [List.flatMap_map, List.mem_flatMap, mem_primaryNames_ofConstraint]
    constructor
    · rintro ⟨c, hc, keys, rfl, hn⟩
      exact ⟨keys, hc, hn⟩
    · rintro ⟨keys, hc, hn⟩
      exact ⟨_, hc, keys, rfl, hn⟩
  rw [elements, List.flatMap_append, List.mem_append, InPrimaryKey, ← hc, ← hk]
  rfl

namespace NewTable

/-- A column behind others: it is recorded without a mark, and its options are marks. -/
theorem addAll_columnElements {d : Sql.Column} (hd : .foreignKey ∉ d.options) (n : String)
    {keys : List String} {front : List Sql.Column} (hk : keys ⊆ front.map (·.name.text)) :
    addAll ⟨n, marked keys [] front⟩ (columnElements d) =
      .ok ⟨n, marked (keys ++ (columnElements d).flatMap Element.primaryNames) []
        (front ++ [d])⟩ := by
  have hm : marked keys [] front ++ [Column.ofSql d] = marked keys [] (front ++ [d]) := by
    have hf : ¬(d.name.text ∉ front.map (·.name.text) ∧ d.name.text ∈ keys) :=
      fun h => h.1 (hk h.2)
    rw [marked_append, List.nil_append]
    simp only [marked, hf, decide_false, Column.ofSql]
  have ho : ∀ e ∈ d.options.map (Element.ofOption d.name), e.isMark := by
    simp only [List.mem_map]
    rintro _ ⟨o, ho, rfl⟩
    exact isMark_ofOption d.name (ne_of_mem_of_not_mem ho hd)
  simp only [columnElements, addAll, add, addColumn]
  rw [hm, addAll_marked ho]
  rfl

/-- All columns, one after the other. -/
theorem addAll_flatMap_columnElements {ds : List Sql.Column}
    (hds : ∀ d ∈ ds, .foreignKey ∉ d.options) (n : String) {keys : List String}
    {front : List Sql.Column} (hk : keys ⊆ front.map (·.name.text)) :
    addAll ⟨n, marked keys [] front⟩ (ds.flatMap columnElements) =
      .ok ⟨n, marked (keys ++ (ds.flatMap columnElements).flatMap Element.primaryNames) []
        (front ++ ds)⟩ := by
  induction ds generalizing keys front with
  | nil => simp [addAll]
  | cons d ds ih =>
    obtain ⟨hd, hds⟩ := List.forall_mem_cons.1 hds
    have hk' : keys ++ (columnElements d).flatMap Element.primaryNames ⊆
        (front ++ [d]).map (·.name.text) := by
      intro name hn
      rw [List.mem_append, mem_primaryNames_columnElements] at hn
      rw [List.map_append, List.mem_append]
      rcases hn with hn | ⟨-, rfl⟩
      · exact .inl (hk hn)
      · exact .inr (by simp)
    rw [List.flatMap_cons, addAll_append (addAll_columnElements hd n hk), ih hds hk']
    simp [List.flatMap_append]

theorem ofSql_eq_marked {t : CreateTable} (ht : Supported t) :
    ofSql t = .ok ⟨plainName t.name,
      marked ((elements t).flatMap Element.primaryNames) [] t.columns⟩ := by
  have hc : ∀ e ∈ t.constraints.map Element.ofConstraint, e.isMark := by
    simp only [List.mem_map]
    rintro _ ⟨c, hc, rfl⟩
    exact isMark_ofConstraint (ht.constraints c hc)
  have hcolumns := addAll_flatMap_columnElements ht.options (plainName t.name)
    (List.nil_subset (([] : List Sql.Column).map (·.name.text)))
  have he : elements t =
      t.columns.flatMap columnElements ++ t.constraints.map Element.ofConstraint := rfl
  have hstart : ofSql t = addAll ⟨plainName t.name, marked [] [] []⟩ (elements t) := rfl
  rw [hstart, he, addAll_append hcolumns, addAll_marked hc, List.flatMap_append,
    List.nil_append, List.nil_append]

end NewTable

/-! ### What makes no difference -/

theorem supported_bare {t : CreateTable} (ht : Supported t) : Supported (bare t) where
  options := by
    simp only [bare, List.mem_map]
    rintro _ ⟨d, hd, rfl⟩ ho
    exact ht.options d hd (List.mem_of_mem_filter ho)
  constraints := by
    simp only [bare, List.mem_filterMap]
    rintro c ⟨c', hc', h⟩
    have hc := ht.constraints c' hc'
    cases c' with
    | primaryKey keys =>
      cases h
      simp
    | check | unique => cases h
    | foreignKey | index | fulltextOrSpatial => simp at hc

theorem inPrimaryKey_bare_iff {t : CreateTable} {d : Sql.Column} (hd : d ∈ t.columns) :
    InPrimaryKey (bare t) d.name.text ↔ InPrimaryKey t d.name.text := by
  have hn : d.name.text ∈ t.columns.map (·.name.text) := List.mem_map_of_mem hd
  refine or_congr ?_ ?_
  · simp [bare, bareColumn]
  · constructor
    · rintro ⟨keys, hk, hm⟩
      obtain ⟨c, hc, h⟩ := List.mem_filterMap.1 hk
      cases c with
      | primaryKey keys =>
        cases h
        obtain ⟨k, hk, hkn⟩ := List.mem_map.1 hm
        exact ⟨keys, hc, List.mem_map.2 ⟨k, List.mem_of_mem_filter hk, hkn⟩⟩
      | check | unique | foreignKey | index | fulltextOrSpatial => cases h
    · rintro ⟨keys, hk, hm⟩
      refine ⟨keys.filter (keyName · ∈ t.columns.map (·.name.text)), ?_, ?_⟩
      · exact List.mem_filterMap.2 ⟨_, hk, rfl⟩
      · obtain ⟨k, hk, hkn⟩ := List.mem_map.1 hm
        exact List.mem_map.2 ⟨k, List.mem_filter.2 ⟨hk, by simpa [hkn] using hn⟩, hkn⟩

theorem ofSql_bare {t : CreateTable} (ht : Supported t) :
    NewTable.ofSql (bare t) = NewTable.ofSql t := by
  rw [NewTable.ofSql_eq_marked (supported_bare ht), NewTable.ofSql_eq_marked ht]
  have hc : (bare t).columns = t.columns.map bareColumn := rfl
  have hm : marked ((elements (bare t)).flatMap Element.primaryNames) [] t.columns =
      marked ((elements t).flatMap Element.primaryNames) [] t.columns := by
    refine marked_congr fun d hd _ => ?_
    rw [mem_primaryNames_elements, mem_primaryNames_elements, inPrimaryKey_bare_iff hd]
  rw [hc, marked_map_bareColumn, hm]
  rfl

/-! ### The table -/

theorem records_marked {t : CreateTable} {i : Nat} {d : Sql.Column}
    (hd : t.columns[i]? = some d) :
    ∃ c, (marked ((elements t).flatMap Element.primaryNames) [] t.columns)[i]? = some c ∧
      Records t i d c := by
  refine ⟨_, by rw [getElem?_marked, hd, Option.map_some], ?_⟩
  constructor
  · rfl
  · rfl
  · exact isNullable_eq_false_iff d.options
  · exact congrArg (fun found => some (recordedDefault found)) (lastDefault_eq_getLast? d.options)
  · rfl
  · rw [decide_eq_true_iff, mem_primaryNames_elements, List.nil_append]
    simp only [List.mem_map, not_exists, not_and, ne_eq]

/-- A statement without foreign keys and indexes makes a table. Its columns are the declared ones,
in order; each says whether it takes nulls and what its default is by the last option that speaks
of it, and is in the primary key exactly if it is the first of its name and that name is in the
primary key somewhere. Checks, other keys and unknown names in the primary key make no
difference. -/
theorem ofSql_columns {t : CreateTable} (ht : Supported t) :
    ∃ n, NewTable.ofSql t = .ok n ∧ n.name = plainName t.name ∧
      n.columns.length = t.columns.length ∧
      (∀ i d, t.columns[i]? = some d → ∃ c, n.columns[i]? = some c ∧ Records t i d c) ∧
      NewTable.ofSql (bare t) = .ok n := by
  have hn := NewTable.ofSql_eq_marked ht
  refine ⟨_, hn, rfl, ?_, fun i d hd => records_marked hd, (ofSql_bare ht).trans hn⟩
  exact length_marked _ _ _

/-- `CREATE TABLE t (a INT NOT NULL NULL UNIQUE, b TEXT NULL NOT NULL CHECK (…), a INT PRIMARY KEY,
"b + 1" INT, CHECK (…), PRIMARY KEY (b + 1, b, z), UNIQUE (a))` -/
def repeatedColumns : CreateTable where
  name := [{ text := "t" }]
  columns :=
    [{ name := { text := "a" }, dataType := "INT", options := [.notNull, .null, .unique],
       phrase := {} },
     { name := { text := "b" }, dataType := "TEXT", options := [.null, .notNull, .check],
       phrase := {} },
     { name := { text := "a" }, dataType := "INT", options := [.primaryKey], phrase := {} },
     { name := { text := "b + 1", quote := some '"' }, dataType := "INT", options := [],
       phrase := {} }]
  constraints :=
    [.check,
     .primaryKey
       [.binary (.identifier { text := "b" }) .add (.literal (.number "1" false)),
        .identifier { text := "b" }, .identifier { text := "z" }],
     .unique [.identifier { text := "a" }]]

/-- Of two columns `a` the first one is in the primary key, although the second one asks for it. -/
theorem ofSql_repeatedColumns :
    Supported repeatedColumns ∧ ∃ n, NewTable.ofSql repeatedColumns = .ok n ∧
      n.columns.map (fun c => (c.name, c.nullable, c.primaryKey)) =
        [("a", true, true), ("b", false, true), ("a", true, false), ("b + 1", true, true)] ∧
      (∀ i d, repeatedColumns.columns[i]? = some d → ∃ c, n.columns[i]? = some c ∧
        Records repeatedColumns i d c) ∧
      NewTable.ofSql (bare repeatedColumns) = .ok n := by
  have hs : Supported repeatedColumns := ⟨by simp [repeatedColumns], by simp [repeatedColumns]⟩
  obtain ⟨n, hn, -, -, hr, hb⟩ := ofSql_columns hs
  refine ⟨hs, n, hn, ?_, hr, hb⟩
  have hc : (NewTable.ofSql repeatedColumns).toOption.map
      (fun n => n.columns.map fun c => (c.name, c.nullable, c.primaryKey)) = some
        [("a", true, true), ("b", false, true), ("a", true, false), ("b + 1", true, true)] := by
    decide +kernel
  simpa [hn, Except.toOption] using hc

end TableFeed.Model
