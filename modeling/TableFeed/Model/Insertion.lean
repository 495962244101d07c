/-!
# Rows to insert

Values arrive one after the other and are cut into rows as wide as there are columns. A new row
begins when the last one is full. Without columns every row is full from the start, so that each
value has a row of its own, behind the empty row that an insertion starts with.

    columns a, b      1 2 3   ⟶   (1, 2) (3)
    no columns        1 2 3   ⟶   () (1) (2) (3)
-/

namespace TableFeed.Model

/-- A row of values; a missing value is a null. -/
abbrev Row : Type := List (Option String)

/-- Rows with one more value, in the last row if that is shorter than `width`. -/
def pushValue (width : Nat) (v : Option String) : List Row → List Row
  | [] => [[v]]
  | [row] => if row.length < width then [row ++ [v]] else [row, [v]]
  | row :: next :: rows => row :: pushValue width v (next :: rows)

/-- Rows to insert into a table. -/
structure Insertion where
  table : String
  columns : List String
  rows : List Row := [[]]
  deriving DecidableEq, Repr

namespace Insertion

/-- An insertion with one more value. -/
def push (i : Insertion) (v : Option String) : Insertion :=
  { i with rows := pushValue i.columns.length v i.rows }

/-- An insertion with several more values. -/
def pushAll (i : Insertion) (vs : List (Option String)) : Insertion := vs.foldl push i

/-- The number of values in all rows. -/
def valueCount (i : Insertion) : Nat := i.rows.flatten.length

end Insertion

end TableFeed.Model
