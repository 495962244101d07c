import TableFeed.Model.Wire
import TableFeed.Proofs.Json.Restated

/-!
# Models on the wire

What a model is written as is read as that model: every part is written by one function and read by
another, and what the first one writes the second one reads. So it is with whatever restates what
was written, for the parts are found by their names.

    model ──toJson──▶ {"resultKind": …, …} ──restated──▶ {…, "resultKind": …} ──ofJson?──▶ model
-/

namespace TableFeed

namespace Json

variable {fields written : List (String × Json)}

/-! ### Single fields -/

theorem RestatedBy.textField (h : RestatedBy (.object fields) (.object written))
    (hn : (fields.map Prod.fst).Nodup) (name : String) {s : String}
    (hv : Json.lookup name fields = some (.text s)) : Json.field? written name asText? = some s :=
  h.field? hn name hv fun w hw => by rw [hw.eq_text, asText?]

theorem RestatedBy.boolField (h : RestatedBy (.object fields) (.object written))
    (hn : (fields.map Prod.fst).Nodup) (name : String) {b : Bool}
    (hv : Json.lookup name fields = some (.bool b)) : Json.field? written name asBool? = some b :=
  h.field? hn name hv fun w hw => by rw [hw.eq_bool, asBool?]

theorem RestatedBy.listField {α : Type} {read : Json → Option α} {write : α → Json}
    (hr : ∀ x j, RestatedBy (write x) j → read j = some x)
    (h : RestatedBy (.object fields) (.object written)) (hn : (fields.map Prod.fst).Nodup)
    (name : String) {xs : List α} (hv : Json.lookup name fields = some (.array (xs.map write))) :
    Json.field? written name (Json.asList? read) = some xs :=
  h.field? hn name hv fun _ hw => hw.asList? hr

theorem asText?_of_restatedBy (s : String) (j : Json) (h : RestatedBy (.text s) j) :
    asText? j = some s := by
  rw [h.eq_text, asText?]

theorem asOptionalText?_of_restatedBy (t : Option String) (j : Json)
    (h : RestatedBy (ofText? t) j) : asOptionalText? j = some t := by
  rw [h.eq_ofText?]
  cases t <;> rfl

end Json

namespace Model

open Json

/-! ### Columns and rows -/

/-- The fields of a column. -/
def Column.fields (c : Column) : List (String × Json) :=
  [("columnName", .text c.name), ("dataType", .text c.dataType),
    ("isNullable", .bool c.nullable), ("default", .ofText? c.default),
    ("isPrimaryKey", .bool c.primaryKey), ("isUnique", .bool c.unique)]

/-- The fields of a row. -/
def rowFields (r : Row) : List (String × Json) := [("values", .array (r.map .ofText?))]

theorem Column.nodup_fields (c : Column) : (c.fields.map Prod.fst).Nodup := by
  simp [Column.fields]

theorem rowOfJson?_of_restatedBy (r : Row) (j : Json) (h : RestatedBy (rowJson r) j) :
    rowOfJson? j = some r := by
  obtain ⟨written, rfl⟩ := h.exists_fields
  exact h.listField asOptionalText?_of_restatedBy (List.nodup_singleton _) _ rfl

theorem Column.ofJson?_of_restatedBy (c : Column) (j : Json) (h : RestatedBy c.toJson j) :
    Column.ofJson? j = some c := by
  obtain ⟨written, rfl⟩ := h.exists_fields
  have hn := c.nodup_fields
  obtain ⟨w, hw, hd⟩ := h.lookup hn "default" rfl
  simp only [Column.ofJson?, record?, Option.bind_eq_bind, Option.bind_some]
  rw [h.textField hn "columnName" rfl, h.textField hn "dataType" rfl,
    h.boolField hn "isNullable" rfl, h.boolField hn "isPrimaryKey" rfl,
    h.boolField hn "isUnique" rfl, optionalText?, hw]
  simp [asOptionalText?_of_restatedBy _ _ hd]

/-! ### The model -/

variable {m : Model} {written : List (String × Json)}

theorem nodup_fields (m : Model) :
    ("resultKind" :: m.fields.map Prod.fst).Nodup := by
  cases m <;> simp [fields, NewTable.fields, Insertion.fields, Removal.fields]

/-- A model is read from its kind and its fields. -/
theorem ofJson?_object (h : lookup "resultKind" written = some (.text m.tag)) :
    ofJson? (.object written) = ofTagged? m.tag (.object written) := by
  simp [ofJson?, field?, h, asText?]

theorem ofJson?_of_restatedBy (h : RestatedBy m.toJson (.object written)) :
    ofJson? (.object written) = some m := by
  have hn := m.nodup_fields
  have hk : field? written "resultKind" asText? = some m.tag := h.textField hn _ rfl
  simp only [ofJson?, hk, Option.bind_eq_bind, Option.bind_some]
  cases m with
  | createTable t =>
    have hname : field? written "tableName" asText? = some t.name := h.textField hn _ rfl
    have hcolumns : field? written "columns" (asList? Column.ofJson?) = some t.columns :=
      RestatedBy.listField Column.ofJson?_of_restatedBy h hn _ rfl
    simp [ofTagged?, tag, NewTable.ofJson?, record?, hname, hcolumns]
  | insert i =>
    have hname : field? written "tableName" asText? = some i.table := h.textField hn _ rfl
    have hcolumns : field? written "columnNames" (asList? asText?) = some i.columns :=
      RestatedBy.listField asText?_of_restatedBy h hn _ rfl
    have hrows : field? written "rows" (asList? rowOfJson?) = some i.rows :=
      RestatedBy.listField rowOfJson?_of_restatedBy h hn _ rfl
    simp [ofTagged?, tag, Insertion.ofJson?, record?, hname, hcolumns, hrows]
  | dropTable r =>
    have hnames : field? written "tableNames" (asList? asText?) = some r.tables :=
      RestatedBy.listField asText?_of_restatedBy h hn _ rfl
    have hexists : field? written "ifExists" asBool? = some r.ifExists := h.boolField hn _ rfl
    have hcascade : field? written "cascade" asBool? = some r.cascade := h.boolField hn _ rfl
    simp [ofTagged?, tag, Removal.ofJson?, record?, hnames, hexists, hcascade]

/-- What a model is written as is read as that model. -/
theorem ofJson?_toJson (m : Model) : ofJson? m.toJson = some m := ofJson?_of_restatedBy (.same _)

end Model

end TableFeed
