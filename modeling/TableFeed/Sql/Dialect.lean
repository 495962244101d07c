import TableFeed.Text.Casing

/-!
# Dialects

The dialect of a script is chosen by name. What a dialect decides about the language is said
in `TableFeed.Sql.Rules`.
-/

namespace TableFeed.Sql

open TableFeed

/-- The dialects that a script may be written in. -/
inductive Dialect where
  | generic
  | mysql
  | postgres
  | sqlite
  | mssql
  | ansi
  deriving DecidableEq, Repr, Inhabited

namespace Dialect

/-- The name under which a dialect is written and configured. -/
def name : Dialect → String
  | generic => "generic"
  | mysql => "mysql"
  | postgres => "postgres"
  | sqlite => "sqlite"
  | mssql => "mssql"
  | ansi => "ansi"

/-- The dialect with exactly this name. -/
def ofName? : String → Option Dialect
  | "generic" => some generic
  | "mysql" => some mysql
  | "postgres" => some postgres
  | "sqlite" => some sqlite
  | "mssql" => some mssql
  | "ansi" => some ansi
  | _ => none

/-- The dialect that a user means: any case, and the usual other names too. -/
def ofText? (text : String) : Option Dialect :=
  match Text.lowered text with
  | "generic" => some generic
  | "mysql" => some mysql
  | "postgres" | "postgresql" => some postgres
  | "sqlite" => some sqlite
  | "mssql" | "sqlserver" | "sql_server" => some mssql
  | "ansi" => some ansi
  | _ => none

/-- What a user is told about a text that names no dialect. -/
def invalidMessage (text : String) : String :=
  "Invalid SQL dialect: " ++ text ++
    ". Expected: generic, mysql, postgres, sqlite, mssql, ansi"

@[simp] theorem ofName?_name (d : Dialect) : ofName? d.name = some d := by
  cases d <;> rfl

end Dialect

end TableFeed.Sql
