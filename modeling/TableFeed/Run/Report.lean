import TableFeed.Json.Basic
import TableFeed.Run.Instant
import TableFeed.Run.Outcome
import TableFeed.Run.RunId

/-!
# Reports

A run that came to its end is reported with its identifier, its start and its outcomes; a run
that was broken off, with what happened and what the user is told. Both are written and read as
JSON.
-/

namespace TableFeed.Run

open TableFeed Json

/-! ### Finished runs -/

/-- The report of a finished run. -/
structure Report where
  runId : RunId
  startedAt : Instant
  outcomes : List Outcome
  deriving DecidableEq, Repr

/-- An outcome as JSON. -/
def Outcome.toJson (o : Outcome) : Json :=
  .object [("index", .ofNat o.index), ("statement", .text o.statement),
    ("status", .ofNat o.status), ("body", .text o.body)]

/-- A finished run as JSON, from the texts of its identifier and its start. -/
def reportJson (runId startedAt : String) (os : List Outcome) : Json :=
  .object [("runId", .text runId), ("startedAt", .text startedAt),
    ("outcomes", .array (os.map Outcome.toJson))]

/-- A report as JSON. -/
def Report.toJson (r : Report) : Json := reportJson r.runId.render r.startedAt.render r.outcomes

/-- The outcome that some JSON is. -/
def Outcome.ofJson? (j : Json) : Option Outcome := do
  let fields ← record? ["index", "statement", "status", "body"] j
  let index ← field? fields "index" (asNat? 18446744073709551615)
  let statement ← field? fields "statement" asText?
  let status ← field? fields "status" (asNat? 65535)
  let body ← field? fields "body" asText?
  return { index, statement, status, body }

/-- The report that some JSON is. -/
def Report.ofJson? (j : Json) : Option Report := do
  let fields ← record? ["runId", "startedAt", "outcomes"] j
  let runId ← field? fields "runId" fun j => (asText? j).bind RunId.ofText?
  let startedAt ← field? fields "startedAt" fun j => (asText? j).bind Instant.ofText?
  let outcomes ← field? fields "outcomes" (asList? Outcome.ofJson?)
  return { runId, startedAt, outcomes }

/-! ### Runs that were broken off -/

/-- The report of a run that was broken off. -/
structure FailureReport where
  typeName : String
  /-- What the user is told. -/
  message : String
  /-- What happened. -/
  detail : String
  /-- The cause behind it. -/
  cause : Option String
  /-- What was being run. -/
  context : String
  deriving DecidableEq, Repr

/-- The report of a failure. -/
def Failure.report (f : Failure) (context : String) : FailureReport where
  typeName := f.typeName
  message := f.userMessage
  detail := f.message
  cause := f.cause
  context := context

/-- A report as JSON. -/
def FailureReport.toJson (r : FailureReport) : Json :=
  .object [("exceptionType", .text r.typeName), ("message", .text r.message),
    ("details", .object [("messageException", .text r.detail),
      ("innerException", .ofText? r.cause), ("errorContextType", .text r.context)])]

/-- The report that some JSON is. -/
def FailureReport.ofJson? (j : Json) : Option FailureReport := do
  let fields ← record? ["exceptionType", "message", "details"] j
  let typeName ← field? fields "exceptionType" asText?
  let message ← field? fields "message" asText?
  let details ← field? fields "details"
    (record? ["messageException", "innerException", "errorContextType"])
  let detail ← field? details "messageException" asText?
  let cause ← optionalText? details "innerException"
  let context ← field? details "errorContextType" asText?
  return { typeName, message, detail, cause, context }

end TableFeed.Run
