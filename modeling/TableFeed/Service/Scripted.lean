import TableFeed.Service.Handler

/-!
# Scripted handlers

Handlers that answer by a script instead of asking a service, to try out how a run goes. The
`n`-th call of a handler takes the `n`-th action of its script, any later call the last one;
without a script a handler says what it was given.
-/

namespace TableFeed.Service

open TableFeed

/-- The models that a scripted handler accepts. -/
inductive Acceptance where
  | all
  | none
  | kind (k : Model.Kind)
  | table (name : String)
  deriving DecidableEq, Repr

/-- Whether a model is accepted. -/
def Acceptance.accepts (a : Acceptance) (m : Model) : Bool :=
  match a with
  | all => true
  | none => false
  | kind k => m.kind == k
  | table name => m.tableName == name

/-- What a scripted handler does. -/
inductive Action where
  /-- Says which kind of model and which table it was given. -/
  | echo
  | respond (r : Response)
  | fail (e : HandlerError)
  /-- Cancels the run, and succeeds. -/
  | cancel (body : String)
  deriving DecidableEq, Repr

/-- The reply of an action. -/
def Action.reply (a : Action) (m : Model) : Reply :=
  match a with
  | echo => { result := .ok (.ok (m.kind.name ++ ":" ++ m.tableName)) }
  | respond r => { result := .ok r }
  | fail e => { result := .error e }
  | cancel body => { result := .ok (.ok body), cancels := true }

/-- The action of the call with `n` calls before it. -/
def actionAt (script : List Action) (n : Nat) : Action :=
  match script[n]? with
  | some a => a
  | none => script.getLastD .echo

/-- How often each of several handlers has been called. -/
abbrev Counts : Type := List Nat

/-- One more call of the handler at a position. -/
def Counts.bump : Counts → Nat → Counts
  | [], 0 => [1]
  | [], i + 1 => 0 :: bump [] i
  | n :: ns, 0 => (n + 1) :: ns
  | n :: ns, i + 1 => n :: bump ns i

/-- The handler at position `i` among several, with its script. -/
def scripted (i : Nat) (name : String) (accepts : Acceptance) (script : List Action) :
    Handler (StateM Counts) where
  name := name
  accepts := accepts.accepts
  handle m _ := fun counts =>
    ((actionAt script (counts.getD i 0)).reply m, counts.bump i)

end TableFeed.Service
