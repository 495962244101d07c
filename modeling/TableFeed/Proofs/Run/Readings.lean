import TableFeed.Cli.Program
import TableFeed.Proofs.Run.Cancellation
import TableFeed.Service.Scripted

/-!
# Runs and readings

What a run does is known from what the program reads off a script without running it: one outcome
for every statement, one call for every request, in order. No statement matters for another one,
except through what handlers remember.

    script ──▶ statements ──▶ readings ──▶ requests ──▶ replies ──▶ outcomes
-/

namespace TableFeed.Run

open TableFeed Service

variable {σ : Type}

/-- Actions whose results are changed, each by itself. -/
theorem inTurn_map {α β γ : Type} (f : α → StateM σ β) (g : α → β → γ) (xs : List α) (st : σ) :
    inTurn (fun x => g x <$> f x) xs st =
      ((xs.zip (inTurn f xs st).1).map fun z => g z.1 z.2, (inTurn f xs st).2) := by
  induction xs generalizing st with
  | nil => rfl
  | cons x xs ih =>
    rw [inTurn_cons, inTurn_cons, map_run, ih, List.zip_cons_cons, List.map_cons]

variable (handlers : List (Handler (StateM σ)))

/-- What is asked for in a script. -/
def requests (items : List (String × Reading)) : List (Handler (StateM σ) × Model) :=
  items.filterMap fun item => item.2.request handlers

variable {handlers} in
theorem requests_cons_of_none {item : String × Reading} (hq : item.2.request handlers = none)
    (items : List (String × Reading)) :
    requests handlers (item :: items) = requests handlers items := List.filterMap_cons_none hq

variable {handlers} in
theorem requests_cons_of_some {item : String × Reading} {q : Handler (StateM σ) × Model}
    (hq : item.2.request handlers = some q) (items : List (String × Reading)) :
    requests handlers (item :: items) = q :: requests handlers items :=
  List.filterMap_cons_some hq

/-- The replies to what is asked for in a script, and the state behind them. -/
def exchangeAll (items : List (String × Reading)) (st : σ) : List (Option Reply) × σ :=
  inTurn (fun item => item.2.exchange handlers) items st

/-- Every request is made once, in order, and nothing else is done. -/
theorem inTurn_requests (items : List (String × Reading)) (st : σ) :
    inTurn ask (requests handlers items) st =
      ((exchangeAll handlers items st).1.filterMap id, (exchangeAll handlers items st).2) := by
  induction items generalizing st with
  | nil => rfl
  | cons item items ih =>
    rw [exchangeAll, inTurn_cons]
    cases hq : item.2.request handlers with
    | none =>
      rw [requests_cons_of_none hq, Reading.exchange_run_of_none hq, ih]
      rfl
    | some q =>
      rw [requests_cons_of_some hq, Reading.exchange_run_of_some hq, inTurn_cons, ih]
      rfl

/-- The calls of a script are its requests. -/
theorem calls_exchangeAll (items : List (String × Reading)) (st : σ) :
    ((items.zip (exchangeAll handlers items st).1).map fun z =>
        z.1.2.execution handlers z.2).filterMap Execution.call =
      (requests handlers items).map Reading.callOf := by
  induction items generalizing st with
  | nil => rfl
  | cons item items ih =>
    rw [exchangeAll, inTurn_cons, List.zip_cons_cons, List.map_cons]
    cases hq : item.2.request handlers with
    | none =>
      rw [requests_cons_of_none hq, Reading.exchange_run_of_none hq,
        List.filterMap_cons_none (Reading.call_execution_none handlers _)]
      exact ih st
    | some q =>
      rw [requests_cons_of_some hq, Reading.exchange_run_of_some hq,
        List.filterMap_cons_some (Reading.call_execution_some handlers hq _)]
      exact congrArg _ (ih _)

/-- The statements of a script are executed as the program reads them. -/
theorem inTurn_execute (c : Config) (script : String) (st : σ) :
    inTurn (Processor.execute { dialect := c.dialect, mode := c.mode, handlers } · false)
        (Script.splitStatements c.mode script) st =
      (((Cli.readings c script).zip (exchangeAll handlers (Cli.readings c script) st).1).map
        fun z => z.1.2.execution handlers z.2,
        (exchangeAll handlers (Cli.readings c script) st).2) := by
  refine Eq.trans ?_ (inTurn_map (fun item : String × Reading => item.2.exchange handlers)
    (fun item reply => item.2.execution handlers reply) (Cli.readings c script) st)
  simp only [Cli.readings, inTurn, List.mapM_map, Processor.execute_eq]
  rfl

/-- A run over a text does what the program reads off it, unless a reply cancels or gives up: every
statement has its outcome, every request is made once and in order, and nothing else is done. -/
theorem run_readings (c : Config) (script : String) (st : σ)
    (hs : ∀ reply ∈ (inTurn ask (requests handlers (Cli.readings c script)) st).1, GoesOn reply) :
    ∃ (progress : Progress) (st' : σ) (outcomes : List Outcome),
      (Processor.run { dialect := c.dialect, mode := c.mode, handlers } (.ofText script)
        false).run st = (progress, st') ∧
      progress.result = .ok outcomes ∧
      outcomes.map Outcome.statement = Script.splitStatements c.mode script ∧
      outcomes.map Outcome.index = List.range outcomes.length ∧
      outcomes.map (fun o => (o.status, o.body)) =
        List.zipWith (fun item reply => item.2.answer reply) (Cli.readings c script)
          (exchangeAll handlers (Cli.readings c script) st).1 ∧
      progress.calls = (requests handlers (Cli.readings c script)).map Reading.callOf ∧
      inTurn ask (requests handlers (Cli.readings c script)) st =
        ((exchangeAll handlers (Cli.readings c script) st).1.filterMap id, st') := by
  have hx := inTurn_requests handlers (Cli.readings c script) st
  have hc := calls_exchangeAll handlers (Cli.readings c script) st
  have hz := inTurn_execute handlers c script st
  have hl : (exchangeAll handlers (Cli.readings c script) st).1.length =
    (Cli.readings c script).length := length_inTurn _ _ _
  generalize exchangeAll handlers (Cli.readings c script) st = r at *
  obtain ⟨replies, st'⟩ := r
  have he : ∀ e ∈ ((Cli.readings c script).zip replies).map fun z => z.1.2.execution handlers z.2,
      e.stops = false := by
    rw [List.forall_mem_map]
    intro z hm
    refine Reading.stops_execution handlers z.1.2 fun reply hreply => hs reply ?_
    rw [hx]
    exact List.mem_filterMap.mpr ⟨z.2, (List.of_mem_zip hm).2, hreply⟩
  obtain ⟨progress, hrun, hres, hcalls⟩ := Processor.run_ofText_of_goesOn _ hz he
  have hitems : (Cli.readings c script).length = (Script.splitStatements c.mode script).length :=
    List.length_map _
  refine ⟨progress, st', _, hrun, hres, ?_, ?_, ?_, hcalls.trans hc, hx⟩
  · exact List.ext_getElem (by simp [hl, hitems]) fun i _ _ => by
      simp [Reading.outcome_execution]
  · exact List.ext_getElem (by simp) fun i _ _ => by simp [Reading.outcome_execution]
  · exact List.ext_getElem (by simp [hl, hitems]) fun i _ _ => by
      simp [Reading.outcome_execution]

/-- A statement of every sort: handled, refused, without a model, with a handler that fails, and
accepted by nobody. -/
def mixedScript : String := "DROP TABLE a; nonsense;\nSELECT 1; DROP TABLE b; DROP TABLE c"

/-- One handler fails for a table, another one answers for a table. -/
def mixedHandlers : List (Handler (StateM Counts)) :=
  [scripted 0 "fails" (.table "b") [.fail (.network "down")], scripted 1 "answers" (.table "a") []]

theorem run_mixedScript :
    (∀ reply ∈ (inTurn ask (requests mixedHandlers (Cli.readings {} mixedScript)) []).1,
      GoesOn reply) ∧
    ∃ (progress : Progress) (st' : Counts) (outcomes : List Outcome),
      (Processor.run { dialect := .generic, mode := .resetPerLine, handlers := mixedHandlers }
        (.ofText mixedScript) false).run [] = (progress, st') ∧
      progress.result = .ok outcomes ∧
      outcomes.map Outcome.statement =
        ["DROP TABLE a", "nonsense", "SELECT 1", "DROP TABLE b", "DROP TABLE c"] ∧
      outcomes.map (fun o => (o.status, o.body)) =
        [(200, "drop:a"),
          (400, "Error: SQL parse error: sql parser error: Expected: an SQL statement, " ++
            "found: nonsense at Line: 1, Column: 1"),
          (400, "Unsupported SQL query type: QUERY"),
          (500, "Error: Network error: down"),
          (400, "Unsupported SQL query type: DropTableModel")] ∧
      progress.calls.map Call.handler = ["answers", "fails"] := by
  have hr : Cli.readings {} mixedScript =
      [("DROP TABLE a", .model (.dropTable { tables := ["a"] })),
        ("nonsense", .refused ("SQL parse error: sql parser error: Expected: an SQL statement, " ++
          "found: nonsense at Line: 1, Column: 1")),
        ("SELECT 1", .unsupported "QUERY"),
        ("DROP TABLE b", .model (.dropTable { tables := ["b"] })),
        ("DROP TABLE c", .model (.dropTable { tables := ["c"] }))] := by
    rw [Cli.readings, Script.splitStatements_eq]
    decide +kernel
  have hs : ∀ reply ∈ (inTurn ask (requests mixedHandlers (Cli.readings {} mixedScript)) []).1,
      GoesOn reply := by
    rw [hr]
    decide +kernel
  obtain ⟨progress, st', outcomes, hrun, hres, hst, hi, hans, hcalls, hrep⟩ :=
    run_readings mixedHandlers {} mixedScript [] hs
  refine ⟨hs, progress, st', outcomes, hrun, hres, ?_, ?_, ?_⟩
  · rw [hst, Script.splitStatements_eq]
    decide +kernel
  · rw [hans, hr]
    decide +kernel
  · rw [hcalls, hr]
    decide +kernel

end TableFeed.Run
