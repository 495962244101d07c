import TableFeed.Model.OfStatement
import TableFeed.Sql.Single

/-!
# Statements before they run

What a statement is known to ask for before anything is done: it makes a model, or it is of a
kind that makes none, or it is refused with a message.
-/

namespace TableFeed.Run

open TableFeed

/-- What a statement asks for. -/
inductive Reading where
  | model (m : Model)
  /-- A statement of a kind that makes no model. -/
  | unsupported (kind : String)
  | refused (message : String)
  deriving DecidableEq, Repr

/-- What a statement asks for in a dialect. -/
def Reading.of (d : Sql.Dialect) (statement : String) : Reading :=
  match Sql.parse d statement with
  | .error e => refused e.message
  | .ok tree =>
    match Model.ofStatement tree with
    | .ok (some m) => model m
    | .ok none => unsupported tree.kindName
    | .error e => refused e.message

end TableFeed.Run
