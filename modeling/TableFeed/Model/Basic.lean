import TableFeed.Model.Insertion
import TableFeed.Model.Table

/-!
# Models

A model is what one statement asks the table service to do: create a table, insert rows or drop
tables.
-/

namespace TableFeed

namespace Model

/-- Tables to drop. -/
structure Removal where
  tables : List String
  ifExists : Bool := false
  cascade : Bool := false
  deriving DecidableEq, Repr

/-- What a model asks for. -/
inductive Kind where
  | create
  | drop
  | insert
  deriving DecidableEq, Repr

/-- The name of a kind. -/
def Kind.name : Kind → String
  | create => "create"
  | drop => "drop"
  | insert => "insert"

/-- The kind of some name. -/
def Kind.ofName? (name : String) : Option Kind := [create, drop, insert].find? (·.name == name)

end Model

/-- What one statement asks for. -/
inductive Model where
  | createTable (t : Model.NewTable)
  | insert (i : Model.Insertion)
  | dropTable (r : Model.Removal)
  deriving DecidableEq, Repr

namespace Model

/-- The kind of a model. -/
def kind : Model → Kind
  | createTable _ => .create
  | insert _ => .insert
  | dropTable _ => .drop

/-- The name of a model's type in reports. -/
def typeName : Model → String
  | createTable _ => "CreateTableModel"
  | insert _ => "InsertModel"
  | dropTable _ => "DropTableModel"

/-- The table that a model is about: the first one if there are several. -/
def tableName : Model → String
  | createTable t => t.name
  | insert i => i.table
  | dropTable r => r.tables.headD ""

end Model

end TableFeed
