import TableFeed.Sql.Lexer
import TableFeed.Sql.Parser.Dispatch

/-!
# Reading a text

A text holds statements with semicolons between them. The forms of SQL contain one another, so
their readers need one another; `grammar` gives each of them the readers of the next smaller
grammar. A grammar of size `n` reads every text in which at most `n` forms are open at once.
Between two tokens only a few forms are opened, so eight per token are enough.

    grammar (n + 1)   expr ──uses──▶ query, type, …  of   grammar n
-/

namespace TableFeed.Sql

/-- The readers of the forms that contain one another, for texts in which at most that many are
open at once. Each is kept as a function of the position, so that a smaller grammar is made only
when it is asked for. -/
def grammar : Nat → Grammar
  | 0 => .none
  | n + 1 =>
    { expr := fun p env start => ExprReader.expr (grammar n) p env start
      primary := fun env start => ExprReader.primary (grammar n) env start
      query := fun env start => QueryReader.query (grammar n) env start
      body := fun p env start => QueryReader.body (grammar n) p env start
      dataType := fun env start => TypeReader.dataType (grammar n) env start
      column := fun env start => ColumnReader.column (grammar n) env start
      tableFactor := fun env start => FromReader.tableFactor (grammar n) env start
      modifying := fun env start => ModifyReader.modifying (grammar n) env start
      statement := fun env start => StatementReader.statement (grammar n) env start }

/-- How many statements, queries and expressions may be open inside one another. -/
def maxDepth : Nat := 50

/-- What a reader makes of a text, and the tokens that it leaves. -/
def readWith {α : Type} (rules : Rules) (p : Grammar → Read α) (text : String) :
    Except SyntaxError (α × List Lexeme) := do
  let lexemes ← tokens rules text
  let size := lexemes.length + 8
  match p (grammar (8 * size)) { rules, tokens := lexemes, depth := maxDepth, bound := size } 0 with
  | (.ok a, pos) => return (a, lexemes.drop pos)
  | (.error e, _) => throw e

/-- One round of reading statements: `done` are those found, newest first, `behind` says whether
the newest has not been ended yet, and `finished` whether a stray `END` has ended the text. -/
def statementRound (g : Grammar) :
    List Statement × Bool × Bool → Read (Option (List Statement × Bool × Bool))
  | (done, behind, finished) => do
    if finished then return none
    if ← Read.symbol ";" then return some (done, false, false)
    if ← Read.atEnd then return none
    if behind then
      if ← Read.isKeyword "END" then return some (done, behind, true)
      Read.expected "end of statement"
    return some ((← g.statement) :: done, true, false)

/-- Statements up to the end. Between two of them stands a semicolon; a stray `END` ends the
text. -/
def script (g : Grammar) : Read (List Statement) := do
  let (done, _, _) ← Read.iterate ([], false, false) (statementRound g)
  return done.reverse

/-- The statements of a text. -/
def statements (rules : Rules) (text : String) : Except SyntaxError (List Statement) := do
  let (found, _) ← readWith rules script text
  return found

/-- The expression that a text begins with, and the tokens behind it. -/
def expression (rules : Rules) (text : String) : Except SyntaxError (Expr × List Lexeme) :=
  readWith rules Grammar.anyExpr text

end TableFeed.Sql
