import TableFeed.Service.Handler

/-!
# Outcomes

Every statement that was run has an outcome. A run that comes to its end is summed up by all of
them; a run that is broken off has a reason instead.
-/

namespace TableFeed.Run

open TableFeed Service

/-- The outcome of one statement. -/
structure Outcome where
  /-- The number of statements before it. -/
  index : Nat
  statement : String
  status : Nat
  /-- The answer, or what went wrong. -/
  body : String
  deriving DecidableEq, Repr

/-- Whether a statement was run with success. -/
def Outcome.success (o : Outcome) : Bool := isSuccess o.status

/-- The bodies of some outcomes. -/
def texts (os : List Outcome) : List String := os.map Outcome.body

/-- How many outcomes are no success. -/
def failedCount (os : List Outcome) : Nat := (os.filter fun o => !o.success).length

/-- All outcomes in one line. -/
def summary (os : List Outcome) : String :=
  "Data with " ++ ",".intercalate (texts os) ++ " queries processed successfully."

/-- Why a run was broken off. -/
inductive Failure where
  /-- The input could not be read. -/
  | io (text : String)
  | cancelled
  deriving DecidableEq, Repr

namespace Failure

/-- What happened. -/
def message : Failure → String
  | io text => "IO error: " ++ text
  | cancelled => "Request was canceled"

/-- The cause behind what happened, if there is one. -/
def cause : Failure → Option String
  | io text => some text
  | cancelled => none

/-- The status of the run as a whole. -/
def status : Failure → Nat
  | io _ => 500
  | cancelled => 499

/-- What the user is told. -/
def userMessage : Failure → String
  | io _ => "Failed to process SQL queries. Please try again later."
  | cancelled => "Request was canceled"

/-- The name of the failure in reports. -/
def typeName : Failure → String
  | io _ => "IoError"
  | cancelled => "Cancelled"

end Failure

end TableFeed.Run
