import TableFeed.Sql.Statement

/-!
# The values of an `INSERT`

The values of an `INSERT` are the leaves of its source: literals and names, and numbers with a
minus in front of them. There are two ways to come to them. The entries of `VALUES` are taken
apart as long as they are made of parentheses, signs, operators and tuples; anything else, and
any other source, is walked as a whole. The walk comes to a number behind a minus twice: once
with its sign, and then again by itself.
-/

namespace TableFeed.Model

open TableFeed Sql

/-- The text of a literal; a null has none. -/
def literalText : Literal → Option String
  | .null => none
  | .quoted .single s | .quoted .double s | .quoted .national s | .quoted .escaped s => some s
  | .number digits _ => some digits
  | v => some v.render

/-- The value of a leaf, if an expression is one. -/
def leaf? : Expr → Option (Option String)
  | .literal v => some (literalText v)
  | .identifier i => some (some i.text)
  | .compound parts => some (some (plainName parts))
  | .unary .minus (.literal (.number digits _)) => some (some ("-" ++ digits))
  | _ => none

/-- The values of the leaves that a walk comes to. -/
def walkedValues (es : List Expr) : List (Option String) := es.filterMap leaf?

mutual

/-- The values of an entry of `VALUES`. -/
def entryValues (e : Expr) : List (Option String) :=
  match leaf? e with
  | some v => [v]
  | none =>
    match e with
    | .nested inner => entryValues inner
    | .unary _ operand => entryValues operand
    | .binary l _ r => entryValues l ++ entryValues r
    | .tuple items => entriesValues items
    | other => walkedValues other.walk

/-- The values of several entries. -/
def entriesValues : List Expr → List (Option String)
  | [] => []
  | e :: es => entryValues e ++ entriesValues es

end

/-- The values of the source of an `INSERT`. -/
def sourceValues (q : Query) : List (Option String) :=
  match q.body with
  | .values r => entriesValues r.rows.flatten
  | .other _ => walkedValues q.walk

end TableFeed.Model
