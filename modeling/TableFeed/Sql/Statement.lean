import TableFeed.Sql.Tree

/-!
# Statements

Statements that a table model can be built from are kept in full; of a query only its tree is
of interest, and of any other statement only the keyword that it begins with.
-/

namespace TableFeed.Sql

/-- An option of a column. -/
inductive ColumnOption where
  | null
  | notNull
  | default (value : Expr)
  | primaryKey
  | unique
  | check
  | foreignKey
  | other
  deriving Repr

/-- A column of a table. -/
structure Column where
  name : Ident
  /-- The data type as it is shown. -/
  dataType : String
  options : List ColumnOption
  /-- The whole column. -/
  phrase : Phrase
  deriving Repr

/-- A constraint that is declared apart from the columns. -/
inductive TableConstraint where
  | primaryKey (columns : List Expr)
  | unique (columns : List Expr)
  | check
  | foreignKey
  | index
  | fulltextOrSpatial
  deriving Repr

/-- `CREATE TABLE` -/
structure CreateTable where
  name : List Ident
  columns : List Column := []
  constraints : List TableConstraint := []
  deriving Repr

/-- What rows are inserted into. -/
inductive InsertTarget where
  | table (name : List Ident)
  /-- Any other target, as it is shown. -/
  | other (text : String)
  deriving Repr

/-- `INSERT` -/
structure Insert where
  target : InsertTarget
  columns : List Ident
  source : Option Query
  deriving Repr

/-- `DROP TABLE` -/
structure DropTable where
  names : List (List Ident)
  ifExists : Bool
  cascade : Bool
  deriving Repr

/-- A statement. -/
inductive Statement where
  | createTable (t : CreateTable)
  | insert (i : Insert)
  | dropTable (d : DropTable)
  | query (q : Query)
  /-- Any other statement, by the keyword that it begins with. -/
  | other (keyword : String)
  deriving Repr

end TableFeed.Sql
