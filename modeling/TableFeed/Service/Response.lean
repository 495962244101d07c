/-!
# Responses

What a handler answers for a model, and the ways in which it may fail.
-/

namespace TableFeed.Service

/-- The answer to a model: a status as in HTTP, and a text. -/
structure Response where
  status : Nat
  body : String
  deriving DecidableEq, Repr

/-- Whether a status means success. -/
def isSuccess (status : Nat) : Bool := 200 ≤ status && status < 300

namespace Response

/-- The answer of success. -/
def ok (body : String) : Response := { status := 200, body }

/-- The answer for something that nobody handles. -/
def unsupported (name : String) : Response :=
  { status := 400, body := "Unsupported SQL query type: " ++ name }

end Response

/-- Why there is no answer. -/
inductive HandlerError where
  | network (detail : String)
  /-- The service answered with a status other than success. -/
  | backend (status : Nat) (body : String)
  | serialization (detail : String)
  | cancelled
  deriving DecidableEq, Repr

namespace HandlerError

/-- What the user is told. -/
def message : HandlerError → String
  | network detail => "Network error: " ++ detail
  | backend status body => "Backend returned status " ++ toString status ++ ": " ++ body
  | serialization detail => "Serialization error: " ++ detail
  | cancelled => "Handler call was cancelled"

/-- The status of a statement whose handler failed. -/
def status : HandlerError → Nat
  | backend status _ => status
  | _ => 500

end HandlerError

end TableFeed.Service
