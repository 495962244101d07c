import TableFeed.Json.Basic
import TableFeed.Model.Basic

/-!
# Models as JSON

A model is an object whose field `resultKind` says which kind it is; the other fields are those
of the kind. All of them are required except the default of a column, whose absence means the
same as null.

    {"resultKind": "dropTable", "tableNames": ["a"], "ifExists": false, "cascade": true}
-/

namespace TableFeed.Model

open TableFeed Json

/-! ### Writing -/

/-- A column as JSON. -/
def Column.toJson (c : Column) : Json :=
  .object [("columnName", .text c.name), ("dataType", .text c.dataType),
    ("isNullable", .bool c.nullable), ("default", .ofText? c.default),
    ("isPrimaryKey", .bool c.primaryKey), ("isUnique", .bool c.unique)]

/-- The fields of a table to create. -/
def NewTable.fields (t : NewTable) : List (String × Json) :=
  [("tableName", .text t.name), ("columns", .array (t.columns.map Column.toJson))]

/-- A row as JSON. -/
def rowJson (r : Row) : Json := .object [("values", .array (r.map .ofText?))]

/-- The fields of rows to insert. -/
def Insertion.fields (i : Insertion) : List (String × Json) :=
  [("tableName", .text i.table), ("columnNames", .ofTexts i.columns),
    ("rows", .array (i.rows.map rowJson))]

/-- The fields of tables to drop. -/
def Removal.fields (r : Removal) : List (String × Json) :=
  [("tableNames", .ofTexts r.tables), ("ifExists", .bool r.ifExists), ("cascade", .bool r.cascade)]

/-- The name of a model's kind on the wire. -/
def tag : Model → String
  | createTable _ => "createTable"
  | insert _ => "insert"
  | dropTable _ => "dropTable"

/-- The fields of a model without the one that names its kind. -/
def fields : Model → List (String × Json)
  | createTable t => t.fields
  | insert i => i.fields
  | dropTable r => r.fields

/-- What is sent for a model: its fields. -/
def payload (m : Model) : Json := .object m.fields

/-- A model as JSON. -/
def toJson (m : Model) : Json := .object (("resultKind", .text m.tag) :: m.fields)

/-! ### Reading -/

/-- The column that some JSON is. -/
def Column.ofJson? (j : Json) : Option Column := do
  let fields ← record?
    ["columnName", "dataType", "isNullable", "default", "isPrimaryKey", "isUnique"] j
  let name ← field? fields "columnName" asText?
  let dataType ← field? fields "dataType" asText?
  let nullable ← field? fields "isNullable" asBool?
  let default ← optionalText? fields "default"
  let primaryKey ← field? fields "isPrimaryKey" asBool?
  let unique ← field? fields "isUnique" asBool?
  return { name, dataType, nullable, default, primaryKey, unique }

/-- The table to create that some JSON is. -/
def NewTable.ofJson? (j : Json) : Option NewTable := do
  let fields ← record? ["tableName", "columns"] j
  let name ← field? fields "tableName" asText?
  let columns ← field? fields "columns" (asList? Column.ofJson?)
  return { name, columns }

/-- The row that some JSON is. -/
def rowOfJson? (j : Json) : Option Row := do
  let fields ← record? ["values"] j
  field? fields "values" (asList? asOptionalText?)

/-- The rows to insert that some JSON is. -/
def Insertion.ofJson? (j : Json) : Option Insertion := do
  let fields ← record? ["tableName", "columnNames", "rows"] j
  let table ← field? fields "tableName" asText?
  let columns ← field? fields "columnNames" (asList? asText?)
  let rows ← field? fields "rows" (asList? rowOfJson?)
  return { table, columns, rows }

/-- The tables to drop that some JSON is. -/
def Removal.ofJson? (j : Json) : Option Removal := do
  let fields ← record? ["tableNames", "ifExists", "cascade"] j
  let tables ← field? fields "tableNames" (asList? asText?)
  let ifExists ← field? fields "ifExists" asBool?
  let cascade ← field? fields "cascade" asBool?
  return { tables, ifExists, cascade }

/-- The model of some kind that the rest of some JSON is. -/
def ofTagged? (tag : String) (rest : Json) : Option Model :=
  if tag = "createTable" then (NewTable.ofJson? rest).map createTable
  else if tag = "insert" then (Insertion.ofJson? rest).map insert
  else if tag = "dropTable" then (Removal.ofJson? rest).map dropTable
  else none

/-- The model that some JSON is. In an array the kind comes first. -/
def ofJson? : Json → Option Model
  | .object fields => do
    let tag ← field? fields "resultKind" asText?
    ofTagged? tag (.object fields)
  | .array (.text tag :: items) => ofTagged? tag (.array items)
  | _ => none

end TableFeed.Model
