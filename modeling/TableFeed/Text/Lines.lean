/-!
# Lines

A line ends at a line feed, and one carriage return right before the line feed belongs to the
line ending. What follows the last line feed is a line of its own unless it is empty; there a
carriage return is an ordinary character.

    "a\r\nb\n\nc\r"   ──lines──▶   "a", "b", "", "c\r"
-/

namespace TableFeed.Text

/-- Cut at every element equal to `stop`: the pieces that an occurrence of `stop` ends, and
the rest after the last one. -/
def cutAfter {α : Type} [DecidableEq α] (stop : α) : List α → List (List α) × List α
  | [] => ([], [])
  | x :: xs =>
    match cutAfter stop xs with
    | (pieces, rest) =>
      if x = stop then ([] :: pieces, rest)
      else match pieces with
        | [] => ([], x :: rest)
        | p :: ps => ((x :: p) :: ps, rest)

/-- A list without one `mark` at its end. -/
def dropMark {α : Type} [DecidableEq α] (mark : α) (xs : List α) : List α :=
  if xs.getLast? = some mark then xs.dropLast else xs

/-- The lines of a sequence of units in which `feed` ends a line and `mark` may stand right
before it. -/
def linesBy {α : Type} [DecidableEq α] (feed mark : α) (xs : List α) : List (List α) :=
  match cutAfter feed xs with
  | (ended, rest) => ended.map (dropMark mark) ++ if rest = [] then [] else [rest]

/-- The lines of a text. -/
def lines (s : String) : List String :=
  (linesBy '\n' '\r' s.toList).map String.ofList

end TableFeed.Text
