import TableFeed.Decimal.Shortest
import TableFeed.Sql.Arithmetic
import TableFeed.Sql.Parser
import TableFeed.Text.Blank

/-!
# Defaults

The default of a column is recorded as text. One pair of single quotes around it is dropped;
what is left is replaced by its value if it is an arithmetic expression with a finite value,
and kept otherwise.

    '3.140'  ⟶  3.14          10 / 4  ⟶  2          'pending'  ⟶  pending
-/

namespace TableFeed.Model

open TableFeed

/-- A text without the single quotes around it, if there are two. -/
def unquoted (cs : List Char) : List Char :=
  match cs with
  | '\'' :: rest => if rest.getLast? = some '\'' then rest.dropLast else cs
  | _ => cs

/-- The finite value of an arithmetic expression. -/
def numericValue (text : String) : Option Float :=
  if text.toList.all Text.isBlank then none
  else match Sql.expression .generic text with
    | .ok (e, []) => (e.number?.map Sql.Number.toFloat).filter Float.isFinite
    | _ => none

/-- How a default is recorded. -/
def normalizeDefault (rendered : String) : String :=
  let text := String.ofList (unquoted rendered.toList)
  match numericValue text with
  | some v => Decimal.floatText v
  | none => text

end TableFeed.Model
