import TableFeed.Proofs.Run.Readings
import TableFeed.Service.Api

/-!
# Failed statements

A statement fails if it is refused, if nobody handles it, if it is answered with a status other than
success, or if its handler fails. An outcome says so by its status alone, and takes the status from
four sources:

    refused                       400
    nobody handles it             400
    answered                      the status of the answer
    handler fails                 the status that the service gave, or 500

The first two are never statuses of success. But nothing keeps a handler from failing with a status
of success that it says the service gave, and such a failure counts as a success. So exactly these
failures are missing from what a run counts as failed (`run_success`). The handlers of the table
service never fail so (`failedCount_apiHandlers`).
-/

namespace TableFeed.Run

open TableFeed Service

/-! ### Statements -/

namespace Reading

/-- Whether a statement fails, given the reply to its request. -/
def failed : Reading → Option Reply → Bool
  | refused _, _ | unsupported _, _ | model _, none => true
  | model _, some reply =>
    match reply.result with
    | .ok r => !isSuccess r.status
    | .error _ => true

/-- Whether the handler of a statement fails, and says that the service answered with success. -/
def mislabelled : Reading → Option Reply → Bool
  | refused _, _ | unsupported _, _ | model _, none => false
  | model _, some reply =>
    match reply.result with
    | .error (.backend status _) => isSuccess status
    | _ => false

/-- The statements that do not fail: they are parsed and make a model, and a handler answers for it
with a status of success. -/
theorem failed_of_eq_false_iff {d : Sql.Dialect} {statement : String} {reply : Option Reply} :
    (Reading.of d statement).failed reply = false ↔
      ∃ tree m r cancels, Sql.parse d statement = .ok tree ∧
        Model.ofStatement tree = .ok (some m) ∧ reply = some ⟨.ok r, cancels⟩ ∧
        isSuccess r.status = true := by
  constructor
  · intro h
    unfold Reading.of at h
    split at h
    · cases h
    · next tree ht =>
      split at h
      · next m hm =>
        match reply, h with
        | some ⟨.ok r, cancels⟩, h =>
          refine ⟨tree, m, r, cancels, ht, hm, rfl, ?_⟩
          simpa [failed] using h
      · cases h
      · cases h
  · rintro ⟨tree, m, r, cancels, ht, hm, rfl, hr⟩
    simp [Reading.of, ht, hm, failed, hr]

theorem failed_of_mislabelled {r : Reading} {reply : Option Reply}
    (h : r.mislabelled reply = true) : r.failed reply = true := by
  cases r with
  | refused message => cases h
  | unsupported kind => cases h
  | model m =>
    cases reply with
    | none => cases h
    | some reply =>
      obtain ⟨result, cancels⟩ := reply
      cases result with
      | ok r => cases h
      | error e => rfl

/-- The status of an error is one of success only if the service is said to have given it. -/
theorem isSuccess_answer (r : Reading) (reply : Option Reply) :
    isSuccess (r.answer reply).1 = (!r.failed reply || r.mislabelled reply) := by
  cases r with
  | refused message => rfl
  | unsupported kind => rfl
  | model m =>
    cases reply with
    | none => rfl
    | some reply =>
      obtain ⟨result, cancels⟩ := reply
      cases result with
      | ok r => simp [answer, failed, mislabelled]
      | error e =>
        cases e with
        | backend status body => rfl
        | network detail => rfl
        | serialization detail => rfl
        | cancelled => rfl

end Reading

/-! ### Counting -/

/-- Statements with the replies to their requests. -/
abbrev Replied : Type := (String × Reading) × Option Reply

namespace Replied

def failed (z : Replied) : Bool := z.1.2.failed z.2

def mislabelled (z : Replied) : Bool := z.1.2.mislabelled z.2

/-- Whether the statement is reported as a success. -/
def success (z : Replied) : Bool := !z.failed || z.mislabelled

end Replied

/-- Failures that count as such, and those that do not. -/
theorem countP_failed (zs : List Replied) :
    zs.countP (fun z => !z.success) + zs.countP Replied.mislabelled = zs.countP Replied.failed := by
  induction zs with
  | nil => rfl
  | cons z zs ih =>
    have hz : ((if (!z.success) = true then 1 else 0) + if z.mislabelled = true then 1 else 0) =
        if z.failed = true then 1 else 0 := by
      have hf : z.mislabelled = true → z.failed = true := Reading.failed_of_mislabelled
      unfold Replied.success
      cases hm : z.mislabelled with
      | true => simp [hf hm]
      | false => cases z.failed <;> simp
    rw [List.countP_cons, List.countP_cons, List.countP_cons]
    omega

/-! ### Runs -/

variable {σ : Type}

/-- A run that completes has executed every statement, and has their outcomes. Behind a statement
that stops it, it would have been asked for the next one whether it was cancelled. -/
theorem Processor.inTurn_of_completed (p : Processor (StateM σ)) {script : String}
    {cancelled : Bool} {st st' : σ} {progress : Progress} {outcomes : List Outcome}
    (hrun : (p.run (.ofText script) cancelled).run st = (progress, st'))
    (hres : progress.result = .ok outcomes) :
    ∃ es, inTurn (p.execute · false) (Script.splitStatements p.mode script) st = (es, st') ∧
      outcomes = ((Script.splitStatements p.mode script).zip es).mapIdx fun i x =>
        x.2.outcome i x.1 := by
  obtain ⟨progress', st'', es, hrun', hin, -, -, -, hupto, hcancelled, hok⟩ :=
    p.run_cancellation script cancelled st
  obtain ⟨rfl, rfl⟩ := Prod.mk.inj (hrun'.symm.trans hrun)
  have hne : progress'.result ≠ .error .cancelled := by
    rw [hres]
    intro h
    cases h
  obtain ⟨hnot, hgave, hcancels⟩ : cancelled = false ∧
      (¬∃ e ∈ es, e.result = .error (.handler .cancelled)) ∧
      ¬∃ e ∈ es.take (Script.completed p.mode (Text.lines script)).length, e.cancels = true := by
    have h := mt hcancelled.mpr hne
    simp only [not_or, Bool.not_eq_true] at h
    exact h
  have hu := hupto hnot
  have hall : es.length = (Script.splitStatements p.mode script).length := by
    rcases Nat.eq_or_lt_of_le hu.length_le with hl | hl
    · exact hl
    · -- a stop before the last statement is one in a statement that is completed by its line
      obtain ⟨e, hlast, hstops⟩ := hu.stops hl
      have hmem : e ∈ es := List.mem_of_getLast? hlast
      have hle : es.length ≤ (Script.completed p.mode (Text.lines script)).length := by
        rw [Script.splitStatements_eq, List.length_append] at hl
        cases hp : Script.pending p.mode (Text.lines script) <;> simp [hp] at hl <;> omega
      rcases Bool.or_eq_true_iff.mp hstops with hc | hg
      · refine absurd ⟨e, ?_, hc⟩ hcancels
        rwa [List.take_of_length_le hle]
      · exact absurd ⟨e, hmem, Execution.gaveUp_iff.mp hg⟩ hgave
  rw [hall, List.take_length] at hin
  refine ⟨es, hin, ?_⟩
  have h := (hok hne).symm.trans hres
  exact (Except.ok.inj h).symm

theorem failedCount_eq_countP (os : List Outcome) :
    failedCount os = (os.map Outcome.success).countP fun b => !b := by
  rw [failedCount, List.countP_map, List.countP_eq_length_filter]
  rfl

section Runs

variable (handlers : List (Handler (StateM σ))) (c : Config) {script : String} {cancelled : Bool}
  {st st' : σ} {progress : Progress} {outcomes : List Outcome}

/-- The statements of a script with the replies to their requests. -/
def replied (script : String) (st : σ) : List Replied :=
  (Cli.readings c script).zip (exchangeAll handlers (Cli.readings c script) st).1

/-- The outcomes of a run that completes are told by the replies. -/
theorem outcomes_of_completed
    (hrun : (Processor.run { dialect := c.dialect, mode := c.mode, handlers } (.ofText script)
      cancelled).run st = (progress, st'))
    (hres : progress.result = .ok outcomes) :
    outcomes = (replied handlers c script st).mapIdx fun i z =>
      { index := i, statement := z.1.1, status := (z.1.2.answer z.2).1,
        body := (z.1.2.answer z.2).2 } := by
  obtain ⟨es, hin, rfl⟩ := Processor.inTurn_of_completed _ hrun hres
  rw [inTurn_execute] at hin
  obtain ⟨rfl, -⟩ := Prod.mk.inj hin
  have hx : (exchangeAll handlers (Cli.readings c script) st).1.length =
    (Cli.readings c script).length := length_inTurn _ _ _
  have hitems : (Cli.readings c script).length = (Script.splitStatements c.mode script).length :=
    List.length_map _
  refine List.ext_getElem (by simp [replied, hx, hitems]) fun i _ _ => ?_
  simp [replied, Reading.outcome_execution, Cli.readings]

theorem statement_replied (script : String) (st : σ) :
    (replied handlers c script st).map (fun z => z.1.1) = Script.splitStatements c.mode script := by
  have hx : (exchangeAll handlers (Cli.readings c script) st).1.length =
    (Cli.readings c script).length := length_inTurn _ _ _
  have hz : (replied handlers c script st).map Prod.fst = Cli.readings c script :=
    List.map_fst_zip (Nat.le_of_eq hx.symm)
  have hs : (Cli.readings c script).map Prod.fst = Script.splitStatements c.mode script := by
    simp [Cli.readings, Function.comp_def]
  rw [← hs, ← hz, List.map_map]
  rfl

/-- In a run that completes, statements are reported as successes by the replies. -/
theorem success_of_completed
    (hrun : (Processor.run { dialect := c.dialect, mode := c.mode, handlers } (.ofText script)
      cancelled).run st = (progress, st'))
    (hres : progress.result = .ok outcomes) :
    outcomes.map Outcome.success = (replied handlers c script st).map Replied.success := by
  rw [outcomes_of_completed handlers c hrun hres]
  refine List.ext_getElem (by simp) fun i _ _ => ?_
  simp [Outcome.success, Reading.isSuccess_answer, Replied.success, Replied.failed,
    Replied.mislabelled]

/-- In a run that completes, the failures that are not counted are those that are mislabelled. -/
theorem failedCount_of_completed
    (hrun : (Processor.run { dialect := c.dialect, mode := c.mode, handlers } (.ofText script)
      cancelled).run st = (progress, st'))
    (hres : progress.result = .ok outcomes) :
    failedCount outcomes + (replied handlers c script st).countP Replied.mislabelled =
      (replied handlers c script st).countP Replied.failed := by
  rw [failedCount_eq_countP, success_of_completed handlers c hrun hres, List.countP_map]
  exact countP_failed _

/-- The statements of a script that do not fail, in terms of what is done for them. -/
theorem failed_replied {script : String} {st : σ} {z : Replied}
    (hz : z ∈ replied handlers c script st) :
    z.failed = false ↔
      ∃ tree m r cancels, Sql.parse c.dialect z.1.1 = .ok tree ∧
        Model.ofStatement tree = .ok (some m) ∧ z.2 = some ⟨.ok r, cancels⟩ ∧
        isSuccess r.status = true := by
  obtain ⟨⟨statement, reading⟩, reply⟩ := z
  obtain ⟨x, -, hx⟩ := List.mem_map.mp (List.of_mem_zip hz).1
  obtain ⟨rfl, rfl⟩ := Prod.mk.inj hx
  exact Reading.failed_of_eq_false_iff

/-- In every run that completes, a statement is reported as a success exactly if it did not fail, or
its handler failed and said that the service answered with success. These failures are all that is
missing from the count of failed statements. A statement that does not fail is parsed and makes a
model, and a handler answers for it with a status of success. -/
theorem run_success
    (hrun : (Processor.run { dialect := c.dialect, mode := c.mode, handlers } (.ofText script)
      cancelled).run st = (progress, st'))
    (hres : progress.result = .ok outcomes) :
    outcomes.map Outcome.statement = Script.splitStatements c.mode script ∧
      outcomes.map Outcome.success =
        (replied handlers c script st).map (fun z => !z.failed || z.mislabelled) ∧
      failedCount outcomes + (replied handlers c script st).countP Replied.mislabelled =
        (replied handlers c script st).countP Replied.failed ∧
      ∀ z ∈ replied handlers c script st, z.failed = false ↔
        ∃ tree m r cancels, Sql.parse c.dialect z.1.1 = .ok tree ∧
          Model.ofStatement tree = .ok (some m) ∧ z.2 = some ⟨.ok r, cancels⟩ ∧
          isSuccess r.status = true := by
  refine ⟨?_, ?_, ?_, ?_⟩
  · rw [← statement_replied handlers c script st, outcomes_of_completed handlers c hrun hres]
    exact List.ext_getElem (by simp) fun i _ _ => by simp
  · exact success_of_completed handlers c hrun hres
  · exact failedCount_of_completed handlers c hrun hres
  · intro z hz
    exact failed_replied handlers c hz

end Runs

/-- A handler for one table that fails, and says that the service answered with success, before one
that answers for the other tables. -/
def busyHandlers : List (Handler (StateM Counts)) :=
  [scripted 0 "busy" (.table "a") [.fail (.backend 200 "busy")], scripted 1 "answers" .all []]

/-- Its handler fails, and it is refused, and it is answered. -/
def busyScript : String := "DROP TABLE a; nonsense; DROP TABLE b"

/-- What a run reports of it. -/
def busyOutcomes : List Outcome :=
  [⟨0, "DROP TABLE a", 200, "Error: Backend returned status 200: busy"⟩,
    ⟨1, "nonsense", 400, "Error: SQL parse error: sql parser error: " ++
      "Expected: an SQL statement, found: nonsense at Line: 1, Column: 1"⟩,
    ⟨2, "DROP TABLE b", 200, "drop:b"⟩]

theorem run_success_busyScript :
    ((Processor.run ⟨.generic, .resetPerLine, busyHandlers⟩ (.ofText busyScript) false).run
        []).1.result = .ok busyOutcomes ∧
      (replied busyHandlers {} busyScript []).map (fun z => !z.failed || z.mislabelled) =
        [true, false, true] ∧
      (replied busyHandlers {} busyScript []).countP Replied.failed =
        failedCount busyOutcomes + 1 := by
  have hres : ((Processor.run ⟨.generic, .resetPerLine, busyHandlers⟩ (.ofText busyScript)
      false).run []).1.result = .ok busyOutcomes := by decide +kernel
  refine ⟨hres, ?_⟩
  -- the run is not to be evaluated once more
  generalize hrun : (Processor.run ⟨.generic, .resetPerLine, busyHandlers⟩ (.ofText busyScript)
    false).run [] = r at hres
  obtain ⟨progress, st'⟩ := r
  obtain ⟨-, hsuccess, hcount, -⟩ := run_success busyHandlers {} hrun hres
  refine ⟨?_, ?_⟩
  · rw [← hsuccess]
    decide
  · rw [← hcount, replied, Cli.readings, Script.splitStatements_eq]
    decide +kernel

/-- The handler of the first statement fails, and yet the statement is reported as a success and not
counted as failed. -/
theorem success_of_failed_handler :
    ((Processor.run ⟨.generic, .resetPerLine, busyHandlers⟩ (.ofText "DROP TABLE a;") false).run
        []).1.result =
          .ok [⟨0, "DROP TABLE a", 200, "Error: Backend returned status 200: busy"⟩] ∧
      (replied busyHandlers {} "DROP TABLE a;" []).map Replied.failed = [true] ∧
      Outcome.success ⟨0, "DROP TABLE a", 200, "Error: Backend returned status 200: busy"⟩ = true ∧
      failedCount [⟨0, "DROP TABLE a", 200, "Error: Backend returned status 200: busy"⟩] = 0 := by
  rw [replied, Cli.readings, Script.splitStatements_eq]
  decide +kernel

/-! ### The table service -/

/-- Whether a handler never fails with a status of success. -/
def Honest (h : Handler (StateM σ)) : Prop :=
  ∀ (x : Model) (cancelled : Bool) (st : σ),
    (Reading.model x).mislabelled (some ((h.handle x cancelled).run st).1) = false

/-- Only an answer with another status makes the client fail with the status of the service. -/
theorem mislabelled_reply (x : Model) (e : Exchange) :
    (Reading.model x).mislabelled (some e.reply) = false := by
  cases e with
  | answered status body =>
    unfold Exchange.reply Reading.mislabelled
    cases h : isSuccess status <;> simp [h]
  | unanswered detail => rfl
  | truncated detail => rfl
  | interrupted => rfl

theorem mislabelled_post (send : Transport (StateM σ)) (client : Client) (path : String)
    (payload : Json) (cancelled : Bool) (x : Model) (st : σ) :
    (Reading.model x).mislabelled (some ((client.post send path payload cancelled).run st).1) =
      false := by
  unfold Client.post
  split
  · rfl
  · split
    · rfl
    · next r _ => exact mislabelled_reply x ((send r).run st).1

theorem honest_apiHandler (send : Transport (StateM σ)) (client : Client) (kind : Model.Kind) :
    Honest (apiHandler send client kind) := by
  intro x cancelled st
  simp only [apiHandler]
  split
  · exact mislabelled_post send client (pathOf x) x.payload cancelled x st
  · rfl

/-- Honest handlers mislabel no statement. -/
theorem mislabelled_exchangeAll {handlers : List (Handler (StateM σ))}
    (hh : ∀ h ∈ handlers, Honest h) (items : List (String × Reading)) (st : σ) :
    ∀ z ∈ items.zip (exchangeAll handlers items st).1, Replied.mislabelled z = false := by
  induction items generalizing st with
  | nil => simp [exchangeAll]
  | cons item items ih =>
    rw [exchangeAll, inTurn_cons, List.zip_cons_cons, List.forall_mem_cons]
    refine ⟨?_, ih _⟩
    show item.2.mislabelled ((item.2.exchange handlers).run st).1 = false
    cases hq : item.2.request handlers with
    | none =>
      rw [Reading.exchange_run_of_none hq]
      cases item.2 <;> rfl
    | some q =>
      rw [Reading.exchange_run_of_some hq]
      cases hi : item.2 with
      | model x => exact hh q.1 (Reading.mem_of_request handlers hq) q.2 false st
      | unsupported kind => rfl
      | refused message => rfl

/-- Whatever comes of its requests, a run against the table service that completes counts every
failure. -/
theorem failedCount_apiHandlers (send : Transport (StateM σ)) (client : Client) (c : Config)
    {script : String} {cancelled : Bool} {st st' : σ} {progress : Progress}
    {outcomes : List Outcome}
    (hrun : (Processor.run ⟨c.dialect, c.mode, apiHandlers send client⟩ (.ofText script)
      cancelled).run st = (progress, st'))
    (hres : progress.result = .ok outcomes) :
    failedCount outcomes =
      (replied (apiHandlers send client) c script st).countP Replied.failed := by
  have hh : ∀ h ∈ apiHandlers send client, Honest h := by
    unfold apiHandlers
    rw [List.forall_mem_map]
    intro kind _
    exact honest_apiHandler send client kind
  have hz : (replied (apiHandlers send client) c script st).countP Replied.mislabelled = 0 := by
    refine List.countP_eq_zero.mpr fun z hm => ?_
    rw [mislabelled_exchangeAll hh _ st z hm]
    exact Bool.false_ne_true
  have h := failedCount_of_completed (apiHandlers send client) c hrun hres
  rwa [hz, Nat.add_zero] at h

end TableFeed.Run
