import Mathlib.Data.List.Forall2
import TableFeed.Proofs.Run.Readings
import TableFeed.Proofs.Service.Delivery
import TableFeed.Service.Server

/-!
# Runs against a table service

A run whose handlers send to a server makes one request for every statement that makes a model, in
the order of the statements, and none for the others. The server answers requests in the order in
which they come, so that the models of a script and the exchanges of the server belong together by
their numbers, whatever the statements between them are and however the exchanges end.

    statements   DROP …    nonsense    INSERT …    SELECT …    CREATE …
    models       0         -           1           -           2
    exchanges    0                     1                       2
-/

namespace TableFeed.Run

open TableFeed Service

/-! ### Exchanges -/

/-- What comes of the request with `n` requests before it. -/
def exchangeAt (exchanges : List Exchange) (n : Nat) : Exchange :=
  exchanges[n]?.getD (exchanges.getLastD (.answered 200 []))

theorem next_eq_exchangeAt (s : Server) : s.next = exchangeAt s.script s.received.length := by
  unfold Server.next exchangeAt
  cases s.script[s.received.length]? <;> rfl

theorem exchangeAt_ne_interrupted {exchanges : List Exchange}
    (h : Exchange.interrupted ∉ exchanges) (n : Nat) : exchangeAt exchanges n ≠ .interrupted := by
  intro hn
  unfold exchangeAt at hn
  cases hg : exchanges[n]? with
  | some e =>
    rw [hg, Option.getD_some] at hn
    exact h (hn ▸ List.mem_of_getElem? hg)
  | none =>
    rw [hg, Option.getD_none, List.getLastD_eq_getLast?] at hn
    cases hl : exchanges.getLast? with
    | some e =>
      rw [hl, Option.getD_some] at hn
      exact h (hn ▸ List.mem_of_getLast? hl)
    | none =>
      rw [hl] at hn
      cases hn

/-- The status and the text of a statement whose model had an exchange. -/
def told : Exchange → Nat × String
  | .answered status body =>
    let text := String.ofList (Text.decodeLossy body)
    if 200 ≤ status ∧ status < 300 then (200, text)
    else (status, "Error: Backend returned status " ++ toString status ++ ": " ++ text)
  | .unanswered detail => (500, "Error: Network error: Request failed: " ++ detail)
  | .truncated detail => (500, "Error: Network error: Failed to read response: " ++ detail)
  | .interrupted => (500, "Error: Handler call was cancelled")

/-- The text for an answer that is no success. The literals are compared by themselves. -/
theorem backend_text (status : Nat) (text : String) :
    "Error: " ++ (HandlerError.backend status text).message =
      "Error: Backend returned status " ++ toString status ++ ": " ++ text := by
  have hs : "Error: " ++ "Backend returned status " = "Error: Backend returned status " := by decide
  have assoc (a b c d e : String) : a ++ (b ++ c ++ d ++ e) = a ++ b ++ c ++ d ++ e := by
    simp only [String.append_assoc]
  exact (assoc _ _ _ _ _).trans (congrArg (· ++ toString status ++ ": " ++ text) hs)

/-- The text for an exchange that failed. -/
theorem network_text {what said : String} (h : "Error: " ++ ("Network error: " ++ what) = said)
    (detail : String) :
    "Error: " ++ (HandlerError.network (what ++ detail)).message = said ++ detail := by
  have assoc (a b c d : String) : a ++ (b ++ (c ++ d)) = a ++ (b ++ c) ++ d := by
    simp only [String.append_assoc]
  exact (assoc _ _ _ _).trans (congrArg (· ++ detail) h)

theorem isSuccess_iff {status : Nat} : isSuccess status = true ↔ 200 ≤ status ∧ status < 300 := by
  simp [isSuccess]

theorem answer_reply (m : Model) (e : Exchange) :
    (Reading.model m).answer (some e.reply) = told e := by
  cases e with
  | answered status body =>
    rw [Exchange.reply, told]
    generalize String.ofList (Text.decodeLossy body) = text
    by_cases hs : 200 ≤ status ∧ status < 300
    · rw [if_pos hs, if_pos (isSuccess_iff.2 hs)]
      rfl
    · rw [if_neg hs, if_neg fun h => hs (isSuccess_iff.1 h)]
      exact congrArg (Prod.mk status) (backend_text status text)
  | unanswered detail => exact congrArg (Prod.mk 500) (network_text (by decide) detail)
  | truncated detail => exact congrArg (Prod.mk 500) (network_text (by decide) detail)
  | interrupted => rfl

theorem goesOn_reply {e : Exchange} (h : e ≠ .interrupted) : GoesOn e.reply := by
  cases e with
  | answered status body => cases hs : isSuccess status <;> simp [GoesOn, Exchange.reply, hs]
  | unanswered detail => simp [GoesOn, Exchange.reply]
  | truncated detail => simp [GoesOn, Exchange.reply]
  | interrupted => exact absurd rfl h

/-! ### Statements and exchanges by their numbers -/

/-- The model that a statement asks for, if it does. -/
def Reading.model? : Reading → Option Model
  | model m => some m
  | _ => none

/-- The models that statements ask for, in order. -/
def models (items : List (String × Reading)) : List Model :=
  items.filterMap fun item => item.2.model?

/-- The replies to statements with `n` models before them. -/
def repliesFrom (exchanges : List Exchange) : Nat → List (String × Reading) → List (Option Reply)
  | _, [] => []
  | n, (_, .model _) :: items =>
    some (exchangeAt exchanges n).reply :: repliesFrom exchanges (n + 1) items
  | n, _ :: items => none :: repliesFrom exchanges n items

/-- The statuses and texts of statements with `n` models before them. -/
def toldFrom (exchanges : List Exchange) : Nat → List (String × Reading) → List (Nat × String)
  | _, [] => []
  | n, (_, .model _) :: items => told (exchangeAt exchanges n) :: toldFrom exchanges (n + 1) items
  | n, (_, .unsupported kind) :: items =>
    (400, "Unsupported SQL query type: " ++ kind) :: toldFrom exchanges n items
  | n, (_, .refused message) :: items => (400, "Error: " ++ message) :: toldFrom exchanges n items

theorem zipWith_answer (exchanges : List Exchange) (n : Nat) (items : List (String × Reading)) :
    List.zipWith (fun item reply => item.2.answer reply) items (repliesFrom exchanges n items) =
      toldFrom exchanges n items := by
  fun_induction toldFrom exchanges n items with
  | case1 n => rfl
  | case2 n x m items ih => rw [repliesFrom, List.zipWith_cons_cons, answer_reply, ih]
  | case3 n x kind items ih => exact congrArg _ ih
  | case4 n x message items ih => exact congrArg _ ih

theorem goesOn_repliesFrom {exchanges : List Exchange} (h : Exchange.interrupted ∉ exchanges)
    (n : Nat) (items : List (String × Reading)) :
    ∀ reply, some reply ∈ repliesFrom exchanges n items → GoesOn reply := by
  fun_induction repliesFrom exchanges n items with
  | case1 n => simp
  | case2 n x m items ih =>
    intro reply hr
    rcases List.mem_cons.1 hr with hr | hr
    · cases hr
      exact goesOn_reply (exchangeAt_ne_interrupted h n)
    · exact ih reply hr
  | case3 n item items _ ih =>
    intro reply hr
    exact ih reply (by simpa using hr)

section Service

variable {c : Config} {site : Url.Site} {path : List Char} (hc : c.OnSite site path)

theorem request_apiHandlers (send : Transport (StateM Server)) (client : Client) (m : Model) :
    (Reading.model m).request (apiHandlers send client) =
      some (apiHandler send client m.kind, m) := by
  cases m <;> rfl

include hc in
/-- Asked for a model, the service is sent it, and the next exchange makes the reply. -/
theorem ask_apiHandler (m : Model) (s : Server) :
    ∃ r, Carries c site m r ∧
      (ask (apiHandler Server.transport c.client m.kind, m)).run s =
        ((exchangeAt s.script s.received.length).reply,
          { s with received := s.received ++ [r] }) := by
  obtain ⟨r, hr, hm⟩ := exists_carries hc m
  refine ⟨r, hm, ?_⟩
  rw [← next_eq_exchangeAt]
  simp only [ask, apiHandler, beq_self_eq_true, if_true, Client.post, Bool.false_eq_true, if_false,
    hr]
  rfl

include hc in
/-- The statements of a script take the exchanges of the server one after the other. -/
theorem exchangeAll_apiHandlers (exchanges : List Exchange) (received : List Request)
    (items : List (String × Reading)) :
    ∃ more, List.Forall₂ (Carries c site) (models items) more ∧
      exchangeAll (apiHandlers Server.transport c.client) items { script := exchanges, received } =
        (repliesFrom exchanges received.length items,
          { script := exchanges, received := received ++ more }) := by
  induction items generalizing received with
  | nil => exact ⟨[], .nil, by simp [exchangeAll, repliesFrom]⟩
  | cons item items ih =>
    obtain ⟨x, reading⟩ := item
    cases reading with
    | model m =>
      obtain ⟨r, hr, hask⟩ := ask_apiHandler hc m { script := exchanges, received }
      obtain ⟨more, hmore, hall⟩ := ih (received ++ [r])
      refine ⟨r :: more, .cons hr hmore, ?_⟩
      have hx := Reading.exchange_run_of_some (request_apiHandlers Server.transport c.client m)
        { script := exchanges, received }
      rw [exchangeAll, inTurn_cons, hx, hask]
      rw [exchangeAll] at hall
      rw [hall]
      simp [repliesFrom]
    | unsupported | refused =>
      -- nobody is asked, and no exchange is taken
      obtain ⟨more, hmore, hall⟩ := ih received
      refine ⟨more, hmore, ?_⟩
      rw [exchangeAll, inTurn_cons, Reading.exchange_run_of_none rfl]
      rw [exchangeAll] at hall
      rw [hall]
      rfl

/-- The targets of requests are known from the models that they carry. -/
theorem map_target {ms : List Model} {received : List Request}
    (h : List.Forall₂ (Carries c site) ms received) :
    received.map (·.url.target) =
      ms.filterMap fun m => (Url.ofText? (c.client.baseUrl ++ pathOf m)).map Url.target := by
  induction h with
  | nil => rfl
  | cons hr _ ih =>
    simp only [List.map_cons, List.filterMap_cons, hr.ofText?_eq, Option.map_some, ih]

end Service

/-! ### Whole runs -/

/-- A run is known from the replies to its statements, if all of them let it go on. -/
theorem run_of_exchangeAll {σ : Type} (handlers : List (Handler (StateM σ))) (c : Config)
    (script : String) {st st' : σ} {replies : List (Option Reply)}
    (hx : exchangeAll handlers (Cli.readings c script) st = (replies, st'))
    (hg : ∀ reply, some reply ∈ replies → GoesOn reply) :
    ∃ (progress : Progress) (outcomes : List Outcome),
      (Processor.run { dialect := c.dialect, mode := c.mode, handlers } (.ofText script)
        false).run st = (progress, st') ∧
      progress.result = .ok outcomes ∧
      outcomes.map Outcome.statement = Script.splitStatements c.mode script ∧
      outcomes.map Outcome.index = List.range outcomes.length ∧
      outcomes.map (fun o => (o.status, o.body)) =
        List.zipWith (fun item reply => item.2.answer reply) (Cli.readings c script) replies := by
  have hz := inTurn_execute handlers c script st
  rw [hx] at hz
  have hl : replies.length = (Script.splitStatements c.mode script).length := by
    have h : (exchangeAll handlers (Cli.readings c script) st).1.length =
      (Cli.readings c script).length := length_inTurn _ _ _
    rw [hx] at h
    exact h.trans (List.length_map _)
  have hi : (Cli.readings c script).length = (Script.splitStatements c.mode script).length :=
    List.length_map _
  have he : ∀ e ∈ ((Cli.readings c script).zip replies).map fun z => z.1.2.execution handlers z.2,
      e.stops = false := by
    rw [List.forall_mem_map]
    intro z hm
    refine Reading.stops_execution handlers z.1.2 fun reply hr => hg reply ?_
    exact hr ▸ (List.of_mem_zip hm).2
  obtain ⟨progress, hrun, hres, -⟩ := Processor.run_ofText_of_goesOn _ hz he
  refine ⟨progress, _, hrun, hres, ?_, ?_, ?_⟩
  · exact List.ext_getElem (by simp [hl, hi]) fun i _ _ => by simp [Reading.outcome_execution]
  · exact List.ext_getElem (by simp) fun i _ _ => by simp [Reading.outcome_execution]
  · exact List.ext_getElem (by simp [hl, hi]) fun i _ _ => by simp [Reading.outcome_execution]

/-- A server at the local address. -/
def localSite : Url.Site where
  secure := false
  authority := "127.0.0.1:8080".toList
  host := "127.0.0.1".toList
  port := some 8080
  written := by decide
  named := by decide

/-- A service on it, under a path with slashes and blanks behind it. -/
def localConfig : Config :=
  { backend := { baseUrl := "http://127.0.0.1:8080/v1// ", authToken := some "s3cret" } }

/-- Models of every kind, between statements that make none. -/
def servedScript : String :=
  "CREATE TABLE a (x INT); nonsense;\nINSERT INTO \"b/c d\" (x) VALUES (1); SELECT 1; " ++
    "DROP TABLE c; DROP TABLE d"

/-- An answer of every sort, one of them with a byte that is no text. -/
def servedExchanges : List Exchange :=
  [.answered 404 [0x6E, 0x6F], .answered 201 [0xC3, 0xA9, 0xFF], .unanswered "down",
    .truncated "end"]

end TableFeed.Run
