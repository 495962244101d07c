/-!
# Tables to create

A table with its columns as they were declared. Columns that are declared twice are kept twice;
what is said about a column by its name is said about the first of them.
-/

namespace TableFeed.Model

/-- A column of a table to create. -/
structure Column where
  name : String
  dataType : String
  nullable : Bool := true
  /-- The default as it is recorded; empty if the column has none. -/
  default : Option String := some ""
  primaryKey : Bool := false
  unique : Bool := false
  deriving DecidableEq, Repr

/-- A table to create. -/
structure NewTable where
  name : String
  columns : List Column := []
  deriving DecidableEq, Repr

/-- What kind of key some columns make. -/
inductive KeyKind where
  | primary
  /-- Any other key: one that no two rows share. -/
  | unique
  deriving DecidableEq, Repr

/-- A column as part of a key. Only the primary key sets its mark; any other key takes the mark of
uniqueness away, and never sets it. -/
def Column.inKey : KeyKind → Column → Column
  | .primary, c => { c with primaryKey := true }
  | .unique, c => { c with unique := false }

/-- Changes the first column of some name. -/
def changeFirst (change : Column → Column) (name : String) : List Column → List Column
  | [] => []
  | c :: cs => if c.name = name then change c :: cs else c :: changeFirst change name cs

namespace NewTable

/-- The first column of some name. -/
def column? (t : NewTable) (name : String) : Option Column := t.columns.find? (·.name = name)

/-- A table with one more column. -/
def addColumn (t : NewTable) (c : Column) : NewTable := { t with columns := t.columns ++ [c] }

/-- A table with a column of a key, if it has that column. -/
def addKey (t : NewTable) (kind : KeyKind) (name : String) : NewTable :=
  { t with columns := changeFirst (Column.inKey kind) name t.columns }

end NewTable

end TableFeed.Model
