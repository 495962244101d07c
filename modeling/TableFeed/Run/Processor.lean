import TableFeed.Model.OfStatement
import TableFeed.Run.Outcome
import TableFeed.Script.Input
import TableFeed.Script.Segmenter
import TableFeed.Sql.Single

/-!
# Running a script

A script is cut into statements line by line, and each statement is run before the next line is
read. A statement that fails has an outcome like any other and stops nothing. A run is broken
off only when a line cannot be read, or when it is found cancelled: before a line is read,
before a statement is run, or by a handler that gave up.

    feed ──lines──▶ segmenter ──statements──▶ parser ──models──▶ handlers
                                               └──────▶ outcome ◀────┘
-/

namespace TableFeed.Run

open TableFeed Service

/-- How scripts are run. -/
structure Processor (m : Type → Type) where
  dialect : Sql.Dialect
  mode : Script.LineMode
  handlers : List (Handler m)

/-- How far a run has come. -/
structure Progress where
  outcomes : List Outcome := []
  /-- The models given to handlers, in order. -/
  calls : List Call := []
  cancelled : Bool := false
  /-- Why the run was broken off, if it was. -/
  failure : Option Failure := none
  deriving DecidableEq, Repr

/-- Why a statement has no response. -/
inductive StatementFailure where
  /-- It could not be parsed, or no model could be built from it. -/
  | rejected (message : String)
  | handler (e : HandlerError)
  deriving DecidableEq, Repr

namespace StatementFailure

/-- What the user is told. -/
def message : StatementFailure → String
  | rejected message => message
  | handler e => e.message

/-- The status of the statement. -/
def status : StatementFailure → Nat
  | rejected _ => 400
  | handler e => e.status

end StatementFailure

/-- What comes of a statement that is executed. -/
structure Execution where
  /-- The model given to a handler, if there was one. -/
  call : Option Call := none
  /-- Whether the run was cancelled meanwhile. -/
  cancels : Bool := false
  result : Except StatementFailure Response
  deriving DecidableEq, Repr

namespace Progress

/-- A run that is broken off. -/
def stop (s : Progress) (f : Failure) : Progress := { s with failure := some f }

/-- A run with one more outcome. -/
def record (s : Progress) (statement : String) (status : Nat) (body : String) : Progress :=
  { s with outcomes := s.outcomes ++ [{ index := s.outcomes.length, statement, status, body }] }

/-- A run after one more statement was executed. A handler that gave up breaks the run off. -/
def after (s : Progress) (statement : String) (e : Execution) : Progress :=
  let s : Progress :=
    { s with calls := s.calls ++ e.call.toList, cancelled := s.cancelled || e.cancels }
  match e.result with
  | .ok r => s.record statement r.status r.body
  | .error (.handler .cancelled) => s.stop .cancelled
  | .error f => s.record statement f.status ("Error: " ++ f.message)

/-- The outcomes of a run, or why it was broken off. -/
def result (s : Progress) : Except Failure (List Outcome) :=
  match s.failure with
  | some f => .error f
  | none => .ok s.outcomes

end Progress

namespace Processor

variable {m : Type → Type} [Monad m]

/-- Executes a statement: it is parsed, a model is built, and the model is dispatched. -/
def execute (p : Processor m) (statement : String) (cancelled : Bool) : m Execution :=
  match Sql.parse p.dialect statement with
  | .error e => return { result := .error (.rejected e.message) }
  | .ok tree =>
    match Model.ofStatement tree with
    | .error e => return { result := .error (.rejected e.message) }
    | .ok none => return { result := .ok (.unsupported tree.kindName) }
    | .ok (some model) => do
      let d ← dispatch p.handlers model cancelled
      let result := d.reply.result.mapError .handler
      return { call := d.call, cancels := d.reply.cancels, result }

/-- Runs a statement, unless the run is broken off or cancelled. -/
def runStatement (p : Processor m) (s : Progress) (statement : String) : m Progress :=
  if s.failure.isSome then return s
  else if s.cancelled then return s.stop .cancelled
  else do
    let e ← p.execute statement s.cancelled
    return s.after statement e

/-- Runs several statements. -/
def runStatements (p : Processor m) (s : Progress) : List String → m Progress
  | [] => return s
  | statement :: others => do
    let s ← p.runStatement s statement
    p.runStatements s others

/-- Runs the statements of a feed, cut by a segmenter. -/
def runFeed (p : Processor m) (g : Script.Segmenter) (s : Progress) : Script.Feed → m Progress
  | [] =>
    if s.failure.isSome then return s
    else if s.cancelled then return s.stop .cancelled
    else p.runStatements s g.finish.toList
  | read :: feed =>
    if s.failure.isSome then return s
    else if s.cancelled then return s.stop .cancelled
    else
      match read with
      | .error text => return s.stop (.io text)
      | .ok line => do
        let (statements, g) := g.pushLine line
        let s ← p.runStatements s statements
        p.runFeed g s feed

/-- Runs a script. -/
def run (p : Processor m) (input : Script.Input) (cancelled : Bool) : m Progress :=
  p.runFeed (Script.Segmenter.start p.mode) { cancelled } input.feed

end Processor

end TableFeed.Run
