import TableFeed.Proofs.Run.Progress
import TableFeed.Run.Reading

/-!
# What a statement asks of handlers

What comes of a statement is known from its reading and from the reply to its request, if it makes
one. A statement that is refused, or that makes no model, or whose model nobody accepts, asks
nothing. Any other one asks the first handler that accepts its model, and only such a call can stop
a run.

    statement ──▶ reading ──▶ request ──▶ reply ──▶ execution
                     └────────────────────────────▶ execution
-/

namespace TableFeed.Run

open TableFeed Service

/-- Whether a run goes on behind a reply. -/
def GoesOn (reply : Reply) : Prop := reply.cancels = false ∧ reply.result ≠ .error .cancelled

instance (reply : Reply) : Decidable (GoesOn reply) := inferInstanceAs (Decidable (_ ∧ _))

section Requests

variable {m : Type → Type}

/-- Makes a request. -/
def ask (q : Handler m × Model) : m Reply := q.1.handle q.2 false

namespace Reading

/-- What a reading asks for: its model, and the first handler that accepts it. -/
def request (handlers : List (Handler m)) : Reading → Option (Handler m × Model)
  | model x => (handlers.find? (·.accepts x)).map fun h => (h, x)
  | unsupported _ => none
  | refused _ => none

/-- The call of a request. -/
def callOf (q : Handler m × Model) : Call := { handler := q.1.name, model := q.2 }

/-- The status and the text for a statement, given the reply to its request. -/
def answer : Reading → Option Reply → Nat × String
  | refused message, _ => (400, "Error: " ++ message)
  | unsupported kind, _ => (400, "Unsupported SQL query type: " ++ kind)
  | model x, none => (400, "Unsupported SQL query type: " ++ x.typeName)
  | model _, some reply =>
    match reply.result with
    | .ok r => (r.status, r.body)
    | .error e => (e.status, "Error: " ++ e.message)

/-- What comes of executing a statement, given the reply to its request. -/
def execution (handlers : List (Handler m)) : Reading → Option Reply → Execution
  | refused message, _ => { result := .error (.rejected message) }
  | unsupported kind, _ => { result := .ok (.unsupported kind) }
  | model x, none => { result := .ok (.unsupported x.typeName) }
  | model x, some reply =>
    { call := ((model x).request handlers).map callOf
      cancels := reply.cancels
      result := reply.result.mapError .handler }

/-- Makes the request of a reading, if there is one. -/
def exchange [Monad m] (handlers : List (Handler m)) (r : Reading) : m (Option Reply) :=
  match r.request handlers with
  | none => return none
  | some q => some <$> ask q

variable (handlers : List (Handler m)) (r : Reading)

theorem outcome_execution (reply : Option Reply) (index : Nat) (statement : String) :
    (r.execution handlers reply).outcome index statement =
      { index, statement, status := (r.answer reply).1, body := (r.answer reply).2 } := by
  cases r with
  | model x =>
    cases reply with
    | none => rfl
    | some reply =>
      obtain ⟨result, cancels⟩ := reply
      cases result <;> rfl
  | unsupported kind => rfl
  | refused message => rfl

theorem call_execution_none : (r.execution handlers none).call = none := by
  cases r <;> rfl

theorem call_execution_some {r : Reading} {q : Handler m × Model}
    (hq : r.request handlers = some q) (reply : Reply) :
    (r.execution handlers (some reply)).call = some (callOf q) := by
  cases r with
  | model x => simp [execution, hq]
  | unsupported kind => cases hq
  | refused message => cases hq

theorem stops_execution {reply : Option Reply} (h : ∀ reply' ∈ reply, GoesOn reply') :
    (r.execution handlers reply).stops = false := by
  cases r with
  | model x =>
    cases reply with
    | none => rfl
    | some reply =>
      obtain ⟨result, cancels⟩ := reply
      obtain ⟨rfl, hr⟩ : cancels = false ∧ result ≠ .error .cancelled := h _ rfl
      cases result with
      | ok r => rfl
      | error e =>
        cases e with
        | cancelled => exact absurd rfl hr
        | _ => rfl
  | unsupported kind => rfl
  | refused message => rfl

/-- The handler of a request is one of the handlers. -/
theorem mem_of_request {r : Reading} {q : Handler m × Model} (hq : r.request handlers = some q) :
    q.1 ∈ handlers := by
  cases r with
  | model x =>
    obtain ⟨h, hf, rfl⟩ := Option.map_eq_some_iff.mp hq
    exact List.mem_of_find?_eq_some hf
  | unsupported kind => cases hq
  | refused message => cases hq

end Reading

/-- A statement is executed as it is read. -/
theorem Processor.execute_eq [Monad m] [LawfulMonad m] (p : Processor m) (x : String) :
    p.execute x false = (Reading.of p.dialect x).execution p.handlers <$>
      (Reading.of p.dialect x).exchange p.handlers := by
  unfold execute Reading.of
  cases Sql.parse p.dialect x with
  | error e => simp [Reading.exchange, Reading.request, Reading.execution]
  | ok tree =>
    simp only
    cases Model.ofStatement tree with
    | error e => simp [Reading.exchange, Reading.request, Reading.execution]
    | ok model =>
      cases model with
      | none => simp [Reading.exchange, Reading.request, Reading.execution]
      | some model =>
        simp only [dispatch, Reading.exchange, Reading.request]
        cases hf : p.handlers.find? (·.accepts model) with
        | none =>
          have hm (r : Response) : (Except.ok r).mapError StatementFailure.handler = .ok r := rfl
          simp [Reading.execution, hm]
        | some h => simp [Reading.execution, Reading.request, hf, Reading.callOf, ask]

end Requests

/-! ### Handlers that keep a state -/

variable {σ : Type}

theorem Reading.exchange_run_of_none {handlers : List (Handler (StateM σ))} {r : Reading}
    (hq : r.request handlers = none) (st : σ) : (r.exchange handlers).run st = (none, st) := by
  rw [exchange, hq]
  rfl

theorem Reading.exchange_run_of_some {handlers : List (Handler (StateM σ))} {r : Reading}
    {q : Handler (StateM σ) × Model} (hq : r.request handlers = some q) (st : σ) :
    (r.exchange handlers).run st = (some ((ask q).run st).1, ((ask q).run st).2) := by
  rw [exchange, hq]
  rfl

/-- What comes of a statement, given the reply in a state. -/
theorem Processor.execute_run (p : Processor (StateM σ)) (x : String) (st : σ) :
    (p.execute x false).run st =
      ((Reading.of p.dialect x).execution p.handlers
          (((Reading.of p.dialect x).exchange p.handlers).run st).1,
        (((Reading.of p.dialect x).exchange p.handlers).run st).2) := by
  rw [execute_eq]
  rfl

/-- Only a call stops a run. -/
theorem Processor.call_of_stops (p : Processor (StateM σ)) {x : String} {st : σ}
    (h : ((p.execute x false).run st).1.stops = true) :
    ((p.execute x false).run st).1.call.isSome = true := by
  rw [execute_run] at h ⊢
  cases hq : (Reading.of p.dialect x).request p.handlers with
  | none =>
    rw [Reading.exchange_run_of_none hq, Reading.stops_execution p.handlers _ (by simp)] at h
    cases h
  | some q =>
    rw [Reading.exchange_run_of_some hq, Reading.call_execution_some p.handlers hq]
    rfl

/-- Whether a run always goes on behind a handler. -/
def Steady (h : Handler (StateM σ)) : Prop :=
  ∀ (x : Model) (cancelled : Bool) (st : σ), GoesOn ((h.handle x cancelled).run st).1

/-- Handlers behind which a run always goes on stop none. -/
theorem Processor.stops_execute {p : Processor (StateM σ)} (hp : ∀ h ∈ p.handlers, Steady h)
    (x : String) (st : σ) : ((p.execute x false).run st).1.stops = false := by
  rw [execute_run]
  refine Reading.stops_execution p.handlers _ fun reply hm => ?_
  cases hq : (Reading.of p.dialect x).request p.handlers with
  | none =>
    rw [Reading.exchange_run_of_none hq] at hm
    cases hm
  | some q =>
    rw [Reading.exchange_run_of_some hq] at hm
    cases hm
    exact hp q.1 (Reading.mem_of_request p.handlers hq) q.2 false st

end TableFeed.Run
