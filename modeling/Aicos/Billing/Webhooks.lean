import Aicos.Billing.Processor
import Aicos.Transition.WorkQueue

namespace Aicos.Billing

open Aicos.Commerce Aicos.Transition

/-! From a POST to `webhooks/stripe`, which anybody may send, to the rows: the controller, the
`billing` queue and the runs of `BillingProcessor.process`. -/

/-- `verify` is `webhooks.constructEvent` of the Stripe library with the raw body, the
signature and the secret; `none` is a signature that it rejects. -/
structure StripeService where
  webhookSecret : Option String
  verify : String → String → String → Option StripeEvent

def StripeService.constructEvent (stripe : StripeService) (rawBody signature : String) : Except HttpError StripeEvent :=
  match stripe.webhookSecret with
  | none | some "" => .error (.serviceUnavailable "Stripe webhooks are not configured")
  | some secret =>
      match stripe.verify rawBody signature secret with
      | none => .error (.badRequest "Invalid Stripe signature")
      | some event => .ok event

structure WebhookPost where
  signature : Option String
  rawBody : Option String

/-- `handleStripeWebhook` before it adds the job. -/
def receive (stripe : StripeService) (request : WebhookPost) : Except HttpError StripeEvent :=
  match request.signature with
  | none | some "" => .error (.badRequest "Missing stripe-signature header")
  | some signature =>
      match request.rawBody with
      | none | some "" => .error (.badRequest "Empty webhook body")
      | some rawBody => stripe.constructEvent rawBody signature

/-- A run draws the cuid of a Payment and the time. -/
abbrev EventDraw := PaymentId × Instant

abbrev EventQueue := WorkQueue EventId StripeEvent EventDraw Db

/-- The attempts of a `stripe.event` job. -/
def eventAttempts : Nat := 5

/-- A handler's effect in one step.  `onChargeRefunded` reads the Payment in a transaction of its
own, before the one that writes. -/
def handleEvent (event : StripeEvent) (draw : EventDraw) (db : Db) : Option Db :=
  (handle { event, paymentId := draw.1, now := draw.2 } db).toOption

/-- `received` are the events that were answered with 200. -/
structure Webhooks where
  queue : EventQueue
  received : List StripeEvent

inductive WebhookAction where
  | post (request : WebhookPost) (added : Answer)
  | work (action : WorkAction EventId EventDraw Db)

def EventQueue.work (queue : EventQueue) (action : WorkAction EventId EventDraw Db) : EventQueue :=
  WorkQueue.work StripeEvent.id eventAttempts handleEvent queue action

namespace Webhooks

def step (stripe : StripeService) (hooks : Webhooks) : WebhookAction → Webhooks
  | .post request added =>
      match receive stripe request with
      | .error _ => hooks
      | .ok event =>
          { queue := if added = .fails then hooks.queue else hooks.queue.add StripeEvent.id event
            received := if added = .works then event :: hooks.received else hooks.received }
  | .work action => { hooks with queue := EventQueue.work hooks.queue action }

def start (db : Db) : Webhooks where
  queue := .start db
  received := []

end Webhooks

section Alone

variable {queue : EventQueue} {event : StripeEvent} {run : Nat} {draw : EventDraw}

/-- The end of a run changes neither rows nor markers. -/
theorem settle_same (queue : EventQueue) (run : Nat) :
    (EventQueue.work queue (.settle run)).rows = queue.rows ∧
      (EventQueue.work queue (.settle run)).marks = queue.marks := by
  have released (work : WorkRun StripeEvent) :
      (queue.release StripeEvent.id eventAttempts run work).rows = queue.rows ∧
        (queue.release StripeEvent.id eventAttempts run work).marks = queue.marks := by
    unfold WorkQueue.release
    split
    · split
      · exact ⟨rfl, rfl⟩
      · split <;> exact ⟨rfl, rfl⟩
    · exact ⟨rfl, rfl⟩
  simp only [EventQueue.work, WorkQueue.work]
  split
  · split
    · exact released _
    · exact ⟨rfl, rfl⟩
  · exact ⟨rfl, rfl⟩

theorem handle_unless {phase : WorkPhase} (there : queue.runs run = some ⟨event, phase⟩) (not : phase ≠ .unmarked) :
    EventQueue.work queue (.handle run draw .works) = queue := by
  cases phase <;> simp [EventQueue.work, WorkQueue.work, there] at not ⊢

theorem mark_unless {phase : WorkPhase} (there : queue.runs run = some ⟨event, phase⟩) (not : phase ≠ .handled) :
    EventQueue.work queue (.mark run .works) = queue := by
  cases phase <;> simp [EventQueue.work, WorkQueue.work, there] at not ⊢

/-- A run that nothing disturbs is `process`. -/
theorem process_alone {attemptsMade : Nat} {worker : Worker}
    (waits : queue.jobs event.id = some ⟨event, attemptsMade, .waiting⟩) (idle : queue.runs run = none)
    (rows : queue.rows = worker.db) (marks : ∀ id, queue.marks id = true ↔ id ∈ worker.done) (draw : EventDraw) :
    let after := Transition.run EventQueue.work queue
      [.take run event.id, .look run .works, .handle run draw .works, .mark run .works, .settle run]
    after.rows = (process ⟨event, draw.1, draw.2⟩ false worker).db ∧
      ∀ id, after.marks id = true ↔ id ∈ (process ⟨event, draw.1, draw.2⟩ false worker).done := by
  let taken := (queue.putJob event.id (some ⟨event, attemptsMade, .active run⟩)).enter run (some ⟨event, .taken⟩)
  have takes : EventQueue.work queue (.take run event.id) = taken := by
    simp only [EventQueue.work, WorkQueue.work, idle, waits, taken]
  have held (phase : WorkPhase) (before : EventQueue) : (before.enter run (some ⟨event, phase⟩)).runs run =
      some ⟨event, phase⟩ := by
    rw [WorkQueue.enter_runs, if_pos rfl]
  have looks (phase : WorkPhase) (finds : phase = if queue.marks event.id then .closed else .unmarked) :
      EventQueue.work taken (.look run .works) = taken.enter run (some ⟨event, phase⟩) := by
    have same : taken.marks = queue.marks := rfl
    simp [EventQueue.work, WorkQueue.work, held, taken, finds, same]
  simp only [run_cons, run_nil, takes]
  cases marked : queue.marks event.id with
  | true =>
      rw [looks .closed (by simp [marked]), handle_unless (held .closed taken) (by decide),
        mark_unless (held .closed taken) (by decide), process, if_pos ((marks _).mp marked)]
      have same := settle_same (taken.enter run (some ⟨event, .closed⟩)) run
      exact ⟨same.1.trans rows, fun id => same.2 ▸ marks id⟩
  | false =>
      have absent : event.id ∉ worker.done := fun done => by simp [(marks _).mpr done] at marked
      have there := held .unmarked taken
      rw [looks .unmarked (by simp [marked]), process, if_neg absent]
      cases ran : handle ⟨event, draw.1, draw.2⟩ worker.db with
      | error failure =>
          have throws : handleEvent event draw queue.rows = none := by rw [handleEvent, rows, ran]; rfl
          have thrown : EventQueue.work (taken.enter run (some ⟨event, .unmarked⟩)) (.handle run draw .works) =
              (taken.enter run (some ⟨event, .unmarked⟩)).enter run (some ⟨event, .thrown⟩) := by
            have fails : handleEvent event draw (taken.enter run (some ⟨event, .unmarked⟩)).rows = none := throws
            simp only [EventQueue.work, WorkQueue.work, there, fails]
          rw [thrown, mark_unless (held .thrown _) (by decide)]
          have same := settle_same ((taken.enter run (some ⟨event, .unmarked⟩)).enter run (some ⟨event, .thrown⟩)) run
          exact ⟨same.1.trans rows, fun id => same.2 ▸ marks id⟩
      | ok db =>
          have applied : handleEvent event draw queue.rows = some db := by rw [handleEvent, rows, ran]; rfl
          let handled := ((taken.enter run (some ⟨event, .unmarked⟩)).commit db (.handled event draw)).enter run
            (some ⟨event, .handled⟩)
          have handles : EventQueue.work (taken.enter run (some ⟨event, .unmarked⟩)) (.handle run draw .works) =
              handled := by
            have works : handleEvent event draw (taken.enter run (some ⟨event, .unmarked⟩)).rows = some db := applied
            simp only [EventQueue.work, WorkQueue.work, there, works, handled]
          have marking : EventQueue.work handled (.mark run .works) =
              (handled.putMark event.id true).enter run (some ⟨event, .closed⟩) := by
            have here : handled.runs run = some ⟨event, .handled⟩ := held .handled _
            simp only [EventQueue.work, WorkQueue.work, here]
            rfl
          rw [handles, marking]
          have same := settle_same ((handled.putMark event.id true).enter run (some ⟨event, .closed⟩)) run
          refine ⟨same.1, fun id => ?_⟩
          rw [same.2]
          have put : ((handled.putMark event.id true).enter run (some ⟨event, .closed⟩)).marks id =
              if id = event.id then true else queue.marks id := WorkQueue.putMark_marks handled event.id true id
          rw [put]
          by_cases mine : id = event.id
          · simp [mine]
          · simp [mine, marks id]

end Alone

end Aicos.Billing
