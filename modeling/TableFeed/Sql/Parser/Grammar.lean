import TableFeed.Sql.Parser.Names
import TableFeed.Sql.Statement

/-!
# The forms that contain one another

Expressions contain queries, queries contain expressions, types contain types, and so on. A
`Grammar` holds a reader for each of these forms. Every reader of a larger form is written
against a grammar that it is given, and the knot is tied at the end by recursion on a number
that exceeds the nesting of any text; so no reader calls itself.
-/

namespace TableFeed.Sql

/-- A data type: how it is shown, and the kinds that a value may not simply follow. -/
structure DataType where
  phrase : Phrase
  isInterval : Bool := false
  isCustom : Bool := false

/-- A data type without columns inside it. -/
def DataType.ofText (text : String) : DataType := { phrase := .text text }

/-- A data type as it is shown. -/
def DataType.text (t : DataType) : String := t.phrase.render

/-- Something that stands in a `FROM` clause: what is shown before its other name and what is
shown behind it. Each stretch has its rank in a walk. -/
structure TableFactor where
  before : List (Nat × Phrase)
  /-- Its other name, if it has one. -/
  rename : Option Phrase := none
  behind : List (Nat × Phrase) := []
  /-- Whether it is a join in parentheses. -/
  isNestedJoin : Bool := false

/-- A table that is shown as one stretch. -/
def TableFactor.ofPhrase (p : Phrase) (rename : Option Phrase) : TableFactor where
  before := [(0, p)]
  rename := rename

/-- A table as a phrase. -/
def TableFactor.phrase (t : TableFactor) : Phrase :=
  .ranked (t.before ++ (0, .optional " AS " t.rename) :: t.behind)

/-- Readers of the forms that contain one another. -/
structure Grammar where
  /-- An expression whose operators bind tighter than a precedence. -/
  expr : Nat → Read Expr
  /-- An expression without operators of two operands. -/
  primary : Read Expr
  query : Read Query
  /-- The body of a query with the set operations that bind tighter than a precedence. -/
  body : Nat → Read QueryBody
  /-- A data type, and whether the `>` that closes the type around it has been taken too. -/
  dataType : Read (DataType × Bool)
  column : Read Column
  tableFactor : Read TableFactor
  /-- A statement that changes rows, in the place of a query. -/
  modifying : Read Phrase
  statement : Read Statement

namespace Grammar

/-- The grammar of a text nested more deeply than its tokens allow: no such text exists. -/
def none : Grammar where
  expr _ := throw .tooDeep
  primary := throw .tooDeep
  query := throw .tooDeep
  body _ := throw .tooDeep
  dataType := throw .tooDeep
  column := throw .tooDeep
  tableFactor := throw .tooDeep
  modifying := throw .tooDeep
  statement := throw .tooDeep

/-- Any expression. -/
def anyExpr (g : Grammar) : Read Expr := g.expr 0

/-- Expressions with commas between them. -/
def exprs (g : Grammar) : Read (List Expr) := Read.commaSeparated g.anyExpr

/-- A data type that stands alone. -/
def fullType (g : Grammar) : Read DataType := do
  let (t, closed) ← g.dataType
  if closed then
    let found := ((← Read.peek 0).map Token.text).getD "EOF"
    throw (.message ("unmatched > after parsing data type " ++ t.text ++ found) Option.none)
  return t

/-- A query in parentheses. -/
def subquery (g : Grammar) : Read Query := Read.inParens g.query

end Grammar

end TableFeed.Sql
