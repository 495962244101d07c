import Mathlib.Data.List.Basic
import TableFeed.Model.OfStatement

/-!
# What is refused of a table

A `CREATE TABLE` makes no table if it asks for a foreign key or an index. It is refused under the
name of the first such element: the options of the columns come first, in whatever column they
stand, and the constraints behind them.

    CREATE TABLE t (a INT UNIQUE, INDEX (a), b INT REFERENCES u)

    refused    ForeignKey (of b), Index          named    ForeignKey

Checks and keys are no part of that list, so that they may come, go and change places.
-/

namespace TableFeed.Model

open TableFeed Sql

/-! ### What is refused -/

/-- The name under which an option of a column is refused. -/
def optionRefusal? : ColumnOption → Option String
  | .foreignKey => some "ForeignKey"
  | .null | .notNull | .default _ | .primaryKey | .unique | .check | .other => none

/-- The name under which a constraint is refused. -/
def constraintRefusal? : TableConstraint → Option String
  | .foreignKey => some "ForeignKey"
  | .index => some "Index"
  | .fulltextOrSpatial => some "FulltextOrSpatial"
  | .primaryKey _ | .unique _ | .check => none

/-- The names of everything that is refused of a table, in order. -/
def refusals (t : CreateTable) : List String :=
  (t.columns.flatMap fun c => c.options.filterMap optionRefusal?) ++
    t.constraints.filterMap constraintRefusal?

/-- Some column refers to another table. -/
def HasReferences (t : CreateTable) : Prop := ∃ c ∈ t.columns, .foreignKey ∈ c.options

/-- Whether an option is neither a check nor a key. -/
def staysOption : ColumnOption → Bool
  | .primaryKey | .unique | .check => false
  | .null | .notNull | .default _ | .foreignKey | .other => true

/-- Whether a constraint is neither a check nor a key. -/
def staysConstraint : TableConstraint → Bool
  | .primaryKey _ | .unique _ | .check => false
  | .foreignKey | .index | .fulltextOrSpatial => true

/-- What a table asks for besides checks and keys: the options of each column, and the
constraints. -/
def besidesKeys (t : CreateTable) : List (List ColumnOption) × List TableConstraint :=
  (t.columns.map (·.options.filter staysOption), t.constraints.filter staysConstraint)

/-! ### Elements -/

/-- The name under which an element is refused. -/
def Element.refusal? : Element → Option String
  | .refused name => some name
  | .column _ | .key _ _ | .passed => none

theorem NewTable.add_eq_error_iff {t : NewTable} {e : Element} {u : Unbuildable} :
    t.add e = .error u ↔ e.refusal?.map .element = some u := by
  cases e <;> simp [add, Element.refusal?]

/-- The first element that is refused ends the table. -/
theorem NewTable.addAll_eq_error_iff {t : NewTable} {es : List Element} {u : Unbuildable} :
    t.addAll es = .error u ↔ (es.filterMap Element.refusal?).head?.map .element = some u := by
  induction es generalizing t with
  | nil => simp [addAll]
  | cons e es ih =>
    rw [addAll]
    cases he : t.add e with
    | error v =>
      obtain ⟨name, hn, hv⟩ := Option.map_eq_some_iff.1 (add_eq_error_iff.1 he)
      simp [hn, hv]
    | ok t' =>
      have hn : e.refusal? = none := by
        cases e with
        | column c => rfl
        | key kind names => rfl
        | passed => rfl
        | refused name => cases he
      rw [List.filterMap_cons_none hn]
      exact ih

theorem refusal?_ofOption (column : Ident) (o : ColumnOption) :
    (Element.ofOption column o).refusal? = optionRefusal? o := by
  cases o <;> rfl

theorem refusal?_ofConstraint (c : TableConstraint) :
    (Element.ofConstraint c).refusal? = constraintRefusal? c := by
  cases c <;> rfl

theorem filterMap_refusal?_elements (t : CreateTable) :
    (elements t).filterMap Element.refusal? = refusals t := by
  rw [elements, List.filterMap_append, List.filterMap_map, List.filterMap_flatMap]
  have hcolumn (c : Sql.Column) :
      (Element.column c :: c.options.map (Element.ofOption c.name)).filterMap Element.refusal? =
        c.options.filterMap optionRefusal? := by
    rw [List.filterMap_cons_none rfl, List.filterMap_map]
    exact List.filterMap_congr fun o _ => refusal?_ofOption c.name o
  have hconstraint : Element.refusal? ∘ Element.ofConstraint = constraintRefusal? :=
    funext refusal?_ofConstraint
  simp only [hcolumn, hconstraint, refusals]

/-- A table is refused under the name of the first thing that is refused of it. -/
theorem ofSql_eq_error_iff {t : CreateTable} {u : Unbuildable} :
    NewTable.ofSql t = .error u ↔ (refusals t).head?.map .element = some u := by
  rw [NewTable.ofSql, NewTable.addAll_eq_error_iff, filterMap_refusal?_elements]

/-! ### Which name comes first -/

theorem mem_optionRefusals {t : CreateTable} {name : String} :
    (name ∈ t.columns.flatMap fun c => c.options.filterMap optionRefusal?) ↔
      HasReferences t ∧ name = "ForeignKey" := by
  have ho (o : ColumnOption) :
      optionRefusal? o = some name ↔ o = .foreignKey ∧ name = "ForeignKey" := by
    cases o <;> simp [optionRefusal?, eq_comm]
  simp only [List.mem_flatMap, List.mem_filterMap, ho, HasReferences]
  constructor
  · rintro ⟨c, hc, o, hm, rfl, rfl⟩
    exact ⟨⟨c, hc, hm⟩, rfl⟩
  · rintro ⟨⟨c, hc, hm⟩, rfl⟩
    exact ⟨c, hc, _, hm, rfl, rfl⟩

/-- References come before all constraints. -/
theorem head?_refusals_of_hasReferences {t : CreateTable} (h : HasReferences t) :
    (refusals t).head? = some "ForeignKey" := by
  rw [refusals]
  cases hr : t.columns.flatMap fun c => c.options.filterMap optionRefusal? with
  | nil =>
    have hm := mem_optionRefusals.2 ⟨h, rfl⟩
    rw [hr] at hm
    cases hm
  | cons name names =>
    obtain ⟨-, rfl⟩ := mem_optionRefusals.1 (hr ▸ List.mem_cons_self)
    rfl

/-- Without references only constraints are refused. -/
theorem refusals_of_not_hasReferences {t : CreateTable} (h : ¬HasReferences t) :
    refusals t = t.constraints.filterMap constraintRefusal? := by
  have hr : (t.columns.flatMap fun c => c.options.filterMap optionRefusal?) = [] := by
    rw [List.eq_nil_iff_forall_not_mem]
    exact fun name hm => h (mem_optionRefusals.1 hm).1
  rw [refusals, hr, List.nil_append]

theorem constraintRefusal?_eq_none_iff {c : TableConstraint} :
    constraintRefusal? c = none ↔ ¬(c = .foreignKey ∨ c = .index ∨ c = .fulltextOrSpatial) := by
  cases c <;> simp [constraintRefusal?]

theorem refusals_eq_nil_iff {t : CreateTable} :
    refusals t = [] ↔
      ¬(HasReferences t ∨
        ∃ c ∈ t.constraints, c = .foreignKey ∨ c = .index ∨ c = .fulltextOrSpatial) := by
  by_cases h : HasReferences t
  · have hr := head?_refusals_of_hasReferences h
    have hne : refusals t ≠ [] := fun hn => by
      rw [hn] at hr
      cases hr
    simp [h, hne]
  · rw [refusals_of_not_hasReferences h, List.filterMap_eq_nil_iff]
    simp only [constraintRefusal?_eq_none_iff, h, false_or, not_exists, not_and]

/-- Checks and keys are never refused. -/
theorem refusals_eq_besidesKeys (t : CreateTable) :
    refusals t = (besidesKeys t).1.flatMap (List.filterMap optionRefusal?) ++
      (besidesKeys t).2.filterMap constraintRefusal? := by
  have ho : (fun o => if staysOption o = true then optionRefusal? o else none) = optionRefusal? :=
    funext fun o => by cases o <;> rfl
  have hc : (fun c => if staysConstraint c = true then constraintRefusal? c else none) =
      constraintRefusal? :=
    funext fun c => by cases c <;> rfl
  simp only [refusals, besidesKeys, List.flatMap_map, List.filterMap_filter, ho, hc]

/-! ### The statement as a whole -/

/-- A statement makes no table exactly if a column refers to another table or a constraint is a
foreign key or an index. It is refused for a reference if there is one, and else for the first such
constraint. Checks and keys make no difference, wherever they stand. -/
theorem ofSql_refused (t : CreateTable) :
    ((∃ u, NewTable.ofSql t = .error u) ↔ HasReferences t ∨
      ∃ c ∈ t.constraints, c = .foreignKey ∨ c = .index ∨ c = .fulltextOrSpatial) ∧
    (HasReferences t → NewTable.ofSql t = .error (.element "ForeignKey")) ∧
    (¬HasReferences t → ∀ front c back name, t.constraints = front ++ c :: back →
      (∀ d ∈ front, constraintRefusal? d = none) → constraintRefusal? c = some name →
        NewTable.ofSql t = .error (.element name)) ∧
    ∀ t', besidesKeys t' = besidesKeys t →
      ∀ u, NewTable.ofSql t' = .error u ↔ NewTable.ofSql t = .error u := by
  refine ⟨?_, fun h => ?_, fun h front c back name ht hf hc => ?_, fun t' ht u => ?_⟩
  · rw [← not_iff_not, ← refusals_eq_nil_iff]
    simp only [ofSql_eq_error_iff]
    cases refusals t <;> simp
  · rw [ofSql_eq_error_iff, head?_refusals_of_hasReferences h, Option.map_some]
  · rw [ofSql_eq_error_iff, refusals_of_not_hasReferences h, ht, List.filterMap_append,
      List.filterMap_eq_nil_iff.2 hf, List.nil_append, List.filterMap_cons_some hc, List.head?_cons,
      Option.map_some]
  · rw [ofSql_eq_error_iff, ofSql_eq_error_iff, refusals_eq_besidesKeys, ht,
      ← refusals_eq_besidesKeys]

/-- `CREATE TABLE t (a INT UNIQUE, b INT …, CHECK (…), INDEX (a), FOREIGN KEY (a) REFERENCES u (a))`
with the given options of the second column. -/
def indexedTable (options : List ColumnOption) : CreateTable where
  name := [{ text := "t" }]
  columns :=
    [{ name := { text := "a" }, dataType := "INT", options := [.unique], phrase := {} },
     { name := { text := "b" }, dataType := "INT", options := options, phrase := {} }]
  constraints := [.check, .index, .foreignKey]

/-- `CREATE TABLE t (a INT, b INT NOT NULL, INDEX (a), PRIMARY KEY (b), FOREIGN KEY (a) REFERENCES
u (a))` -/
def keyedTable : CreateTable where
  name := [{ text := "t" }]
  columns :=
    [{ name := { text := "a" }, dataType := "INT", options := [], phrase := {} },
     { name := { text := "b" }, dataType := "INT", options := [.notNull], phrase := {} }]
  constraints := [.index, .primaryKey [.identifier { text := "b" }], .foreignKey]

/-- A reference in the last column comes before the index, and the index before the foreign key
behind it; other keys do not change that. -/
theorem ofSql_indexedTable :
    HasReferences (indexedTable [.primaryKey, .foreignKey]) ∧
      NewTable.ofSql (indexedTable [.primaryKey, .foreignKey]) = .error (.element "ForeignKey") ∧
      ¬HasReferences (indexedTable [.notNull, .check]) ∧
      NewTable.ofSql (indexedTable [.notNull, .check]) = .error (.element "Index") ∧
      besidesKeys keyedTable = besidesKeys (indexedTable [.notNull, .check]) ∧
      NewTable.ofSql keyedTable = .error (.element "Index") := by
  have hr : HasReferences (indexedTable [.primaryKey, .foreignKey]) :=
    ⟨_, List.mem_cons_of_mem _ List.mem_cons_self, by simp⟩
  have hn : ¬HasReferences (indexedTable [.notNull, .check]) := by
    simp [HasReferences, indexedTable]
  obtain ⟨-, hreference, -⟩ := ofSql_refused (indexedTable [.primaryKey, .foreignKey])
  obtain ⟨-, -, hconstraint, hkeys⟩ := ofSql_refused (indexedTable [.notNull, .check])
  have hindex := hconstraint hn [.check] .index [.foreignKey] "Index" rfl (by simp; rfl) rfl
  exact ⟨hr, hreference hr, hn, hindex, rfl, (hkeys keyedTable rfl _).2 hindex⟩

end TableFeed.Model
