import Aicos.Billing.Webhooks
import Aicos.Properties.EventOrder
import Aicos.Settlement.OwnRows

namespace Aicos.Properties

open Aicos.Billing Aicos.Commerce Aicos.Inventory Aicos.Settlement Aicos.Transition

/-! What becomes of the events that Stripe was told are received. -/

/-- The event came with a signature under the secret of the endpoint. -/
def Signed (stripe : StripeService) (event : StripeEvent) : Prop :=
  ∃ rawBody signature secret, stripe.webhookSecret = some secret ∧ secret ≠ "" ∧
    stripe.verify rawBody signature secret = some event

/-- What holds of the webhooks whatever Stripe, the queue, the workers and others do. -/
structure HooksInvariant (stripe : StripeService) (first : Db) (hooks : Webhooks) : Prop where
  kept : hooks.queue.Kept StripeEvent.id eventAttempts handleEvent first
  signed : ∀ event ∈ hooks.queue.added, Signed stripe event
  received : ∀ event ∈ hooks.received, event ∈ hooks.queue.added

section Steps

variable {stripe : StripeService} {first : Db} {hooks : Webhooks} {request : WebhookPost} {event : StripeEvent}

theorem signed_of_receive (ok : receive stripe request = .ok event) : Signed stripe event := by
  unfold receive at ok
  split at ok
  · cases ok
  · cases ok
  · rename_i signature _ _
    split at ok
    · cases ok
    · cases ok
    · rename_i rawBody _ _
      unfold StripeService.constructEvent at ok
      split at ok
      · cases ok
      · cases ok
      · rename_i secret filled configured
        split at ok
        · cases ok
        · rename_i verified
          cases ok
          exact ⟨rawBody, signature, secret, configured, filled, verified⟩

theorem HooksInvariant.post (holds : HooksInvariant stripe first hooks) (signed : Signed stripe event)
    (added : Answer) :
    HooksInvariant stripe first {
      queue := if added = .fails then hooks.queue else hooks.queue.add StripeEvent.id event
      received := if added = .works then event :: hooks.received else hooks.received } := by
  have grown : ∀ other ∈ (hooks.queue.add StripeEvent.id event).added, Signed stripe other := by
    rw [WorkQueue.add_added]
    exact List.forall_mem_cons.mpr ⟨signed, holds.signed⟩
  have known : ∀ other ∈ event :: hooks.received, other ∈ (hooks.queue.add StripeEvent.id event).added := by
    rw [WorkQueue.add_added]
    exact fun other member => List.cons_subset_cons event holds.received member
  cases added with
  | works => exact ⟨holds.kept.add event, grown, known⟩
  | fails => exact holds
  | lost => exact ⟨holds.kept.add event, grown, fun other member => known other (List.mem_cons_of_mem _ member)⟩

theorem HooksInvariant.step (holds : HooksInvariant stripe first hooks) (action : WebhookAction) :
    HooksInvariant stripe first (hooks.step stripe action) := by
  cases action with
  | post request added =>
      simp only [Webhooks.step]
      split
      · exact holds
      · rename_i event ok
        exact holds.post (signed_of_receive ok) added
  | work action =>
      have same : (EventQueue.work hooks.queue action).added = hooks.queue.added := WorkQueue.work_added ..
      exact ⟨holds.kept.work action, same ▸ holds.signed, same ▸ holds.received⟩

theorem hooksInvariant_start (stripe : StripeService) (first : Db) :
    HooksInvariant stripe first (Webhooks.start first) where
  kept := WorkQueue.kept_start first
  signed := List.forall_mem_nil _
  received := List.forall_mem_nil _

end Steps

/-- The event has had its effect; or it waits for a worker or has one; or the queue gave it up,
after five attempts that threw or because its worker kept dying. -/
def Unforgotten (queue : EventQueue) (event : StripeEvent) : Prop :=
  event.id ∈ queue.handled.map StripeEvent.id ∨ queue.Open event.id ∨
    eventAttempts ≤ queue.throws.count event.id ∨ event.id ∈ queue.stalled

theorem HooksInvariant.accounted {stripe : StripeService} {first : Db} {hooks : Webhooks}
    (holds : HooksInvariant stripe first hooks) : ∀ event ∈ hooks.received, Unforgotten hooks.queue event := by
  intro event member
  obtain (done | spent | stalled) | opened := holds.kept.settled_or_open (holds.received event member)
  · exact .inl done
  · exact .inr (.inr (.inl spent))
  · exact .inr (.inr (.inr stalled))
  · exact .inr (.inl opened)

/-- An open event on which `handleEvent` does not throw can be brought to its effect. -/
def GoesOn (queue : EventQueue) : Prop :=
  ∀ id queued, queue.jobs id = some queued → queued.standing ≠ .completed ∧ queued.standing ≠ .failed →
    ∀ draw, (handleEvent queued.job draw queue.rows).isSome →
      ∃ actions, id ∈ (run EventQueue.work queue actions).handled.map StripeEvent.id

/-- A worker may die and calls may fail, but not between the transaction of an event and its
marker, and the marker outlives Stripe's redeliveries. -/
def Spared (hooks : Webhooks) : WebhookAction → Prop
  | .post _ _ => True
  | .work action => WorkQueue.Graceful StripeEvent.id hooks.queue action

theorem once_step {stripe : StripeService} {first : Db} {hooks : Webhooks} {action : WebhookAction}
    (once : hooks.queue.Once StripeEvent.id) (holds : HooksInvariant stripe first hooks)
    (spared : Spared hooks action) : (hooks.step stripe action).queue.Once StripeEvent.id := by
  cases action with
  | post request added =>
      simp only [Webhooks.step]
      split
      · exact once
      · split
        · exact once
        · exact once.add _
  | work action => exact once.work holds.kept spared

def lampsPaidFor : StripeEvent where
  id := 7
  object := .checkoutSessionCompleted lampSession

/-- An attempt at the payment that failed before. -/
def lampsDeclined : StripeEvent where
  id := 8
  object := .paymentFailed { id := 1, metadata := lampSession.metadata, lastPaymentErrorMessage := none }

/-- A service that takes the secret for the signature. -/
def plainStripe : StripeService where
  webhookSecret := some "whsec"
  verify := fun rawBody signature secret =>
    if signature = secret then
      if rawBody = "paid" then some lampsPaidFor else if rawBody = "declined" then some lampsDeclined else none
    else none

def paidPost : WebhookAction :=
  .post ⟨some "whsec", some "paid"⟩ .works

def declinedPost : WebhookAction :=
  .post ⟨some "whsec", some "declined"⟩ .works

/-- The first worker dies, and Stripe delivers the event again after it has been handled and
its job evicted.  The failed attempt comes last. -/
def lampsDelivered : List WebhookAction :=
  [paidPost, .work (.take 1 7), .work (.stop 1), .work (.stall 7 true), .work (.take 2 7), .work (.look 2 .works),
    .work (.handle 2 (1, 0) .works), .work (.mark 2 .works), .work (.settle 2), .work (.evict 7), paidPost,
    .work (.take 3 7), .work (.look 3 .works), .work (.settle 3), declinedPost, .work (.take 4 8),
    .work (.look 4 .works), .work (.handle 4 (2, 0) .works), .work (.mark 4 .works), .work (.settle 4)]

theorem lampsDelivered_spared :
    Along (Webhooks.step plainStripe) Spared (Webhooks.start (lampRows (lampOrder .pending .unpaid) []))
      lampsDelivered := by
  refine ⟨trivial, trivial, fun work there => ?_, fun run work there => ?_, trivial, trivial, nofun, nofun, trivial,
    trivial, trivial, trivial, trivial, trivial, trivial, trivial, trivial, nofun, nofun, trivial, trivial⟩
  · have taken : some (⟨lampsPaidFor, .taken⟩ : WorkRun StripeEvent) = some work := there
    cases taken
    nofun
  · -- the only run has died
    have nobody : ∀ other, Function.update (Function.update (fun _ => none) 1 (some ⟨lampsPaidFor, .taken⟩)) 1
        (none : Option (WorkRun StripeEvent)) other = none := by
      intro other
      by_cases first : other = 1 <;> simp [first]
    exact absurd ((nobody run).symm.trans there) nofun

example : (run (Webhooks.step plainStripe) (Webhooks.start (lampRows (lampOrder .pending .unpaid) []))
    lampsDelivered).queue.handled = [lampsPaidFor, lampsDeclined] := by
  decide

/-! What the deliveries come to for one order of the shop. -/

/-- An unpaid order with an open session, among others. -/
structure Waiting (session : CheckoutSessionObj) (intent : PaymentIntentId) (mine : StripeRefundId → Prop)
    (order : Order) (db : Db) : Prop where
  charged : session.paymentIntent = some intent
  payable : settles session db = some order
  keyed : ItemsKeyed db.stock
  unpaid : db.findPaymentByIntent intent = none
  apart : Apart order.id intent mine db

/-- Stripe's events concern the order through its session and its payment intent, whose refunds
are those in `mine`, and the session is completed in one event. -/
structure TellsOf (stripe : StripeService) (session : CheckoutSessionObj) (orderId : OrderId) (intent : PaymentIntentId)
    (mine : StripeRefundId → Prop) : Prop where
  concerned : ∀ event, Signed stripe event →
    Own session intent mine event.object ∨ Beside orderId intent mine event.object
  once : ∀ first second, Signed stripe first → Signed stripe second →
    heard intent first.object = some .completed → heard intent second.object = some .completed → first.id = second.id

/-- The cuid that a handler draws is new, and others leave the order alone. -/
def LeavesAlone (session : CheckoutSessionObj) (terms : Terms) (intent : PaymentIntentId) (mine : StripeRefundId → Prop)
    (hooks : Webhooks) : WebhookAction → Prop
  | .work (.handle _ draw _) => draw.1 ∉ hooks.queue.rows.payments.map (·.id)
  | .work (.other change) => Aside session terms intent hooks.queue.rows (change hooks.queue.rows) ∧
      Apart terms.orderId intent mine (change hooks.queue.rows)
  | _ => True

/-- The notices about the intent in the events that were handled, in this order. -/
def told (intent : PaymentIntentId) (queue : EventQueue) : List Notice :=
  queue.handled.filterMap fun event => heard intent event.object

/-- The order, its Payment and its refunds are as the standing says. -/
structure Shows (orderId : OrderId) (intent : PaymentIntentId) (db : Db) (standing : Standing) : Prop where
  order : orderStatuses orderId db = some (standing.status, standing.financialStatus)
  payment : (db.findPaymentByIntent intent).map factsOf = standing.payment
  refunds : (ownRows orderId db).refunds.map withoutPayment = standing.refunds

section Following

variable {stripe : StripeService} {session : CheckoutSessionObj} {intent : PaymentIntentId}
  {mine : StripeRefundId → Prop} {order : Order} {db : Db} {terms : Terms} {first : Standing} {hooks : Webhooks}

theorem ok_of_handleEvent {event : StripeEvent} {draw : EventDraw} {db after : Db}
    (applied : handleEvent event draw db = some after) : handle ⟨event, draw.1, draw.2⟩ db = .ok after := by
  unfold handleEvent at applied
  cases ran : handle ⟨event, draw.1, draw.2⟩ db with
  | error failure => simp [ran, Except.toOption] at applied
  | ok rows =>
      rw [ran] at applied
      exact congrArg Except.ok (Option.some.inj applied)

theorem eq_completed {notice : Notice} (completes : notice.isCompletion = true) : notice = .completed := by
  cases notice with
  | completed => rfl
  | failed => cases completes
  | refunded listed => cases completes

theorem Waiting.follows (waiting : Waiting session intent mine order db) :
    Follows session (termsOf session order) intent mine (waitingStanding order (ownRows order.id db)) [] db := by
  have awaits : AwaitsPayment session intent order [⟨⟨0, .checkoutSessionCompleted session⟩, 0, 0⟩]
      (ownRows order.id db) := by
    refine ⟨waiting.charged, waiting.payable, waiting.keyed, waiting.unpaid, ?_, rfl, nofun, nofun⟩
    intro job member
    cases List.mem_singleton.mp member
    rfl
  obtain ⟨tracks, ready, waits⟩ := awaits.start
  exact ⟨tracks, .inl ⟨ready, waits.status, waits.financialStatus, le_rfl⟩, Nat.zero_le _, waiting.apart⟩

theorem shows_of_follows {told : List Notice} (follows : Follows session terms intent mine first told db) :
    Shows terms.orderId intent db (run (Standing.step terms) first told) := by
  obtain ⟨order, found, status, financialStatus⟩ := follows.tracks.order
  refine ⟨?_, follows.tracks.payment, follows.tracks.refunds⟩
  have there : db.findOrder terms.orderId = some order := found
  rw [orderStatuses, there, Option.map_some, status, financialStatus]

theorem follows_step {db : Db} (tells : TellsOf stripe session terms.orderId intent mine)
    (charged : session.paymentIntent = some intent) (holds : HooksInvariant stripe db hooks)
    (once : hooks.queue.Once StripeEvent.id)
    (follows : Follows session terms intent mine first (told intent hooks.queue) hooks.queue.rows)
    {action : WebhookAction} (alone : LeavesAlone session terms intent mine hooks action) :
    Follows session terms intent mine first (told intent (hooks.step stripe action).queue)
      (hooks.step stripe action).queue.rows := by
  have unchanged (queue : EventQueue) (rows : queue.rows = hooks.queue.rows)
      (commits : queue.commits = hooks.queue.commits) :
      Follows session terms intent mine first (told intent queue) queue.rows := by
    rw [told, WorkLog.handled, commits, rows]
    exact follows
  cases action with
  | post request added =>
      simp only [Webhooks.step]
      split
      · exact follows
      · rename_i event ok
        split
        · exact follows
        · have same := WorkQueue.add_same StripeEvent.id hooks.queue event
          exact unchanged _ same.1 same.2
  | work action =>
      simp only [Webhooks.step]
      obtain same | ⟨run, draw, answer, event, rfl, there, applied, commits⟩ | ⟨change, rfl, rows, commits⟩ :=
        WorkQueue.work_effect StripeEvent.id eventAttempts handleEvent hooks.queue action
      · exact unchanged _ same.1 same.2
      · have signed := holds.signed event (holds.kept.runs run _ there).added
        have handled : handle ⟨event, draw.1, draw.2⟩ hooks.queue.rows =
            .ok (EventQueue.work hooks.queue (.handle run draw answer)).rows := ok_of_handleEvent applied
        have grown : told intent (EventQueue.work hooks.queue (.handle run draw answer)) =
            told intent hooks.queue ++ (heard intent event.object).toList := by
          rw [told, told, WorkLog.handled, EventQueue.work, commits, List.filterMap_append, List.filterMap_append]
          cases notified : heard intent event.object <;> simp [WorkCommit.job?, WorkLog.handled, notified]
        have drawn : draw.1 ∉ hooks.queue.rows.payments.map (·.id) := alone
        rw [grown]
        refine follows.handle charged drawn (tells.concerned event signed) (fun completed => ?_) handled
        refine List.countP_eq_zero.mpr fun notice member completes => ?_
        obtain ⟨other, done, notified⟩ := List.mem_filterMap.mp member
        obtain rfl := eq_completed completes
        have before := holds.signed other (holds.kept.handled other done)
        have same := tells.once other event before signed notified completed
        exact once.fresh run _ there rfl (same ▸ List.mem_map_of_mem done)
      · have kept : told intent (EventQueue.work hooks.queue (.other change)) = told intent hooks.queue := by
          rw [told, told, WorkLog.handled, EventQueue.work, commits, List.filterMap_append]
          simp [WorkCommit.job?, WorkLog.handled]
        rw [kept, EventQueue.work, rows]
        exact follows.aside alone.1 alone.2

end Following

/-- Workers die gracefully and others leave the order alone, from one step to the next. -/
def Calm (stripe : StripeService) (session : CheckoutSessionObj) (intent : PaymentIntentId)
    (mine : StripeRefundId → Prop) (order : Order) (db : Db) (trace : List WebhookAction) : Prop :=
  Along (Webhooks.step stripe)
    (fun hooks action => Spared hooks action ∧ LeavesAlone session (termsOf session order) intent mine hooks action)
    (Webhooks.start db) trace

section Deliveries

variable {stripe : StripeService} {session : CheckoutSessionObj} {intent : PaymentIntentId}
  {mine : StripeRefundId → Prop} {order : Order} {db : Db} {trace trace' : List WebhookAction}

theorem Calm.visits (calm : Calm stripe session intent mine order db trace)
    (waiting : Waiting session intent mine order db) (tells : TellsOf stripe session order.id intent mine) :
    Visits (Webhooks.step stripe)
      (fun hooks => HooksInvariant stripe db hooks ∧ hooks.queue.Once StripeEvent.id ∧
        Follows session (termsOf session order) intent mine (waitingStanding order (ownRows order.id db))
          (told intent hooks.queue) hooks.queue.rows) (Webhooks.start db) trace := by
  refine visits_of_along (fun hooks action good guard => ?_) ⟨?_, ?_, ?_⟩ calm
  · obtain ⟨holds, once, follows⟩ := good
    exact ⟨holds.step action, once_step once holds guard.1,
      follows_step tells waiting.charged holds once follows guard.2⟩
  · exact hooksInvariant_start stripe db
  · exact WorkQueue.once_start StripeEvent.id db
  · exact waiting.follows

theorem lamps_wait : Waiting lampSession 1 (fun _ => False) (lampOrder .pending .unpaid)
    (lampRows (lampOrder .pending .unpaid) []) := by
  refine ⟨rfl, by decide, List.nodup_singleton _, rfl, ?_, List.nodup_nil, ?_⟩
  · exact fun payment member => absurd member List.not_mem_nil
  · exact fun row member => absurd member List.not_mem_nil

theorem signed_cases {event : StripeEvent} (signed : Signed plainStripe event) :
    event = lampsPaidFor ∨ event = lampsDeclined := by
  obtain ⟨rawBody, signature, secret, _, _, verified⟩ := signed
  simp only [plainStripe] at verified
  split at verified
  · split at verified
    · exact .inl (Option.some.inj verified).symm
    · split at verified
      · exact .inr (Option.some.inj verified).symm
      · cases verified
  · cases verified

theorem plainStripe_tells : TellsOf plainStripe lampSession 1 1 fun _ => False := by
  constructor
  · intro event signed
    obtain rfl | rfl := signed_cases signed
    · refine .inl ⟨rfl, fun notice notified refund listed => ?_⟩
      cases notified
      cases listed
    · refine .inl ⟨⟨rfl, rfl⟩, fun notice notified refund listed => ?_⟩
      cases notified
      cases listed
  · intro first second one two completed completed'
    obtain rfl | rfl := signed_cases one
    · obtain rfl | rfl := signed_cases two
      · rfl
      · cases completed'
    · cases completed

theorem lampsDelivered_calm : Calm plainStripe lampSession 1 (fun _ => False) (lampOrder .pending .unpaid)
    (lampRows (lampOrder .pending .unpaid) []) lampsDelivered := by
  refine lampsDelivered_spared.and ?_
  have fresh : 2 ∉ [1] := by decide
  exact ⟨trivial, trivial, trivial, trivial, trivial, trivial, List.not_mem_nil, trivial, trivial, trivial, trivial,
    trivial, trivial, trivial, trivial, trivial, trivial, fresh, trivial, trivial, trivial⟩

/-- The queue after a history of the webhooks. -/
def queueAfter (stripe : StripeService) (db : Db) (trace : List WebhookAction) : EventQueue :=
  (run (Webhooks.step stripe) (Webhooks.start db) trace).queue

/-- A refund that was told of is one of `mine`. -/
theorem HooksInvariant.told_mine {hooks : Webhooks} (holds : HooksInvariant stripe db hooks)
    (tells : TellsOf stripe session order.id intent mine) (charged : session.paymentIntent = some intent) :
    ∀ refund ∈ (told intent hooks.queue).flatMap Notice.listed, mine refund.id := by
  intro refund listed
  obtain ⟨notice, member, present⟩ := List.mem_flatMap.mp listed
  obtain ⟨event, done, notified⟩ := List.mem_filterMap.mp member
  obtain own | beside := tells.concerned event (holds.signed event (holds.kept.handled event done))
  · rw [heard_of_about charged own.about] at notified
    exact own.listed notice notified refund present
  · rw [heard_of_beside beside] at notified
    cases notified

/-- The lamps without a dying worker, and with the events as they happened. -/
def lampsInOrder : List WebhookAction :=
  [declinedPost, .work (.take 1 8), .work (.look 1 .works), .work (.handle 1 (4, 0) .works), .work (.mark 1 .works),
    .work (.settle 1), paidPost, .work (.take 2 7), .work (.look 2 .works), .work (.handle 2 (5, 0) .works),
    .work (.mark 2 .works), .work (.settle 2)]

theorem lampsInOrder_calm : Calm plainStripe lampSession 1 (fun _ => False) (lampOrder .pending .unpaid)
    (lampRows (lampOrder .pending .unpaid) []) lampsInOrder := by
  refine Along.and ⟨trivial, trivial, trivial, nofun, nofun, trivial, trivial, trivial, trivial, nofun, nofun, trivial,
    trivial⟩ ?_
  have fresh : 5 ∉ [4] := by decide
  exact ⟨trivial, trivial, trivial, List.not_mem_nil, trivial, trivial, trivial, trivial, trivial, fresh, trivial,
    trivial, trivial⟩

end Deliveries

end Aicos.Properties
