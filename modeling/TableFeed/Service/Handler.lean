import TableFeed.Model.Basic
import TableFeed.Service.Response

/-!
# Handlers

A handler accepts some models and answers for them. What it does besides answering (talking to
a service, keeping a count) happens in the monad `m`; a handler that keeps a state is one over
`StateM`. While a handler works, the run may be cancelled, by the handler or by the user; a run
that is cancelled stays so.

    model ──▶ first handler that accepts it ──▶ reply
-/

namespace TableFeed.Service

open TableFeed

/-- Results are equal if their values or their errors are. -/
instance instDecidableEqExcept {ε α : Type} [DecidableEq ε] [DecidableEq α] :
    DecidableEq (Except ε α)
  | .ok a, .ok b => decidable_of_iff (a = b) ⟨congrArg Except.ok, Except.ok.inj⟩
  | .error a, .error b => decidable_of_iff (a = b) ⟨congrArg Except.error, Except.error.inj⟩
  | .ok _, .error _ => isFalse nofun
  | .error _, .ok _ => isFalse nofun

/-- What comes back from a handler. -/
structure Reply where
  result : Except HandlerError Response
  /-- Whether the run was cancelled meanwhile. -/
  cancels : Bool := false
  deriving DecidableEq, Repr

/-- A handler. -/
structure Handler (m : Type → Type) where
  name : String
  accepts : Model → Bool
  /-- Answers for a model; the flag says whether the run is cancelled already. -/
  handle : Model → Bool → m Reply

/-- A model given to a handler. -/
structure Call where
  handler : String
  model : Model
  deriving DecidableEq, Repr

/-- What comes of a model: the call that was made, if any, and the reply. -/
structure Dispatched where
  call : Option Call
  reply : Reply
  deriving DecidableEq, Repr

/-- Gives a model to the first handler that accepts it. -/
def dispatch {m : Type → Type} [Monad m] (handlers : List (Handler m)) (model : Model)
    (cancelled : Bool) : m Dispatched :=
  match handlers.find? (·.accepts model) with
  | none => return { call := none, reply := { result := .ok (.unsupported model.typeName) } }
  | some h => do
    let reply ← h.handle model cancelled
    return { call := some { handler := h.name, model }, reply }

end TableFeed.Service
