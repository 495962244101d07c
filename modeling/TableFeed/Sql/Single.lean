import TableFeed.Sql.Parser

/-!
# Texts of one statement

A text that is to be run holds exactly one statement. Its kind is named for the user: the
statements that models are built from by their full names, every query alike, and any other
statement by its first keyword.
-/

namespace TableFeed.Sql

/-- Why a text is not one statement. -/
inductive ParseError where
  | syntaxError (e : SyntaxError)
  | empty
  | multiple (count : Nat)
  deriving DecidableEq, Repr

/-- What the user is told. -/
def ParseError.message : ParseError → String
  | syntaxError e => "SQL parse error: " ++ e.render
  | empty => "Statement is empty"
  | multiple count => "Expected a single statement, found " ++ toString count

/-- The one statement among some. -/
def single : List Statement → Except ParseError Statement
  | [s] => .ok s
  | [] => .error .empty
  | found => .error (.multiple found.length)

/-- The one statement of a text. -/
def parse (d : Dialect) (text : String) : Except ParseError Statement :=
  match statements d.rules text with
  | .ok found => single found
  | .error e => .error (.syntaxError e)

/-- What a statement is called. -/
def Statement.kindName : Statement → String
  | createTable _ => "CREATE TABLE"
  | insert _ => "INSERT"
  | dropTable _ => "DROP TABLE"
  | query _ => "QUERY"
  | other keyword => keyword

end TableFeed.Sql
