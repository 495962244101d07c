import TableFeed.Model.Basic
import TableFeed.Model.Default
import TableFeed.Model.Values

/-!
# From statements to models

`CREATE TABLE`, `INSERT` and `DROP TABLE` make a model; other statements make none, which is no
error. What a table asks for beyond columns and keys is either passed over (checks) or refused
(foreign keys and indexes). The first refused element is named; the elements come in order, each
column followed by its options, the constraints last.
-/

namespace TableFeed.Model

open TableFeed Sql

/-- Why a statement makes no model although its kind does. -/
inductive Unbuildable where
  /-- A part of the statement that models do not know. -/
  | element (name : String)
  /-- Something other than a table that rows are inserted into. -/
  | target (text : String)
  deriving DecidableEq, Repr

/-- What the user is told. -/
def Unbuildable.message : Unbuildable → String
  | element name => "Unsupported node type: " ++ name
  | target text => "Unsupported insert target: " ++ text

/-! ### `CREATE TABLE` -/

/-- What a column or a constraint means for the table. -/
inductive Element where
  | column (c : Sql.Column)
  | key (kind : KeyKind) (names : List String)
  /-- Something that is passed over. -/
  | passed
  /-- Something that is refused. -/
  | refused (name : String)

/-- The name of a column in a key. -/
def keyName : Expr → String
  | .identifier i => i.text
  | e => e.render

/-- What an option of a column means. -/
def Element.ofOption (column : Ident) : ColumnOption → Element
  | .primaryKey => key .primary [column.text]
  | .unique => key .unique [column.text]
  | .foreignKey => refused "ForeignKey"
  | _ => passed

/-- What a constraint means. -/
def Element.ofConstraint : TableConstraint → Element
  | .primaryKey columns => key .primary (columns.map keyName)
  | .unique columns => key .unique (columns.map keyName)
  | .check => passed
  | .foreignKey => refused "ForeignKey"
  | .index => refused "Index"
  | .fulltextOrSpatial => refused "FulltextOrSpatial"

/-- What the columns and constraints of a table mean, in order. -/
def elements (t : CreateTable) : List Element :=
  (t.columns.flatMap fun c => Element.column c :: c.options.map (Element.ofOption c.name)) ++
    t.constraints.map Element.ofConstraint

/-- Whether a column takes nulls: the last option that speaks of them decides. -/
def isNullable (options : List ColumnOption) : Bool :=
  options.foldl (fun nullable o => match o with
    | .null => true
    | .notNull => false
    | _ => nullable) true

/-- The last default of a column. -/
def lastDefault (options : List ColumnOption) : Option Expr :=
  options.foldl (fun found o => match o with
    | .default e => some e
    | _ => found) none

/-- A column as it is recorded. -/
def Column.ofSql (c : Sql.Column) : Column where
  name := c.name.text
  dataType := c.dataType
  nullable := isNullable c.options
  default := some (match lastDefault c.options with
    | some e => normalizeDefault e.render
    | none => "")

/-- A table with one more element. -/
def NewTable.add (t : NewTable) : Element → Except Unbuildable NewTable
  | .column c => .ok (t.addColumn (Column.ofSql c))
  | .key kind names => .ok (names.foldl (·.addKey kind ·) t)
  | .passed => .ok t
  | .refused name => .error (.element name)

/-- A table with several more elements, unless one is refused. -/
def NewTable.addAll (t : NewTable) : List Element → Except Unbuildable NewTable
  | [] => .ok t
  | e :: es =>
    match t.add e with
    | .ok t => t.addAll es
    | .error u => .error u

/-- The table that a statement creates. -/
def NewTable.ofSql (c : CreateTable) : Except Unbuildable NewTable :=
  NewTable.addAll { name := plainName c.name } (elements c)

/-! ### Other statements -/

/-- The rows that a statement inserts. -/
def Insertion.ofSql (i : Sql.Insert) : Except Unbuildable Insertion :=
  match i.target with
  | .other text => .error (.target text)
  | .table name =>
    let empty : Insertion := { table := plainName name, columns := i.columns.map Ident.text }
    .ok (empty.pushAll ((i.source.map sourceValues).getD []))

/-- The tables that a statement drops. -/
def Removal.ofSql (d : DropTable) : Removal where
  tables := d.names.map plainName
  ifExists := d.ifExists
  cascade := d.cascade

/-- The model of a statement; none if statements of its kind make none. -/
def ofStatement : Statement → Except Unbuildable (Option Model)
  | .createTable c => (NewTable.ofSql c).map fun t => some (.createTable t)
  | .insert i => (Insertion.ofSql i).map fun i => some (.insert i)
  | .dropTable d => .ok (some (.dropTable (Removal.ofSql d)))
  | .query _ | .other _ => .ok none

end TableFeed.Model
