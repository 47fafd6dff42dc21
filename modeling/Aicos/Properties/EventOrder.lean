import Aicos.Settlement.Requests
import Aicos.Settlement.Tracking

namespace Aicos.Properties

open Aicos.Commerce Aicos.Billing Aicos.Data Aicos.Inventory Aicos.Settlement Aicos.Transition

/-! Stripe's events about one payment intent, processed in any order.

Each handler reads and writes the Payment row of the intent through an upsert
of its own, and a refund event that finds no row is acknowledged. -/

def orderStatuses (id : OrderId) (db : Db) : Option (OrderStatus × FinancialStatus) :=
  (db.findOrder id).map fun order => (order.status, order.financialStatus)

/-- The order, the Payment of its intent and the set of Refund rows agree. -/
structure SameRows (id : OrderId) (intent : PaymentIntentId) (first second : Db) : Prop where
  order : orderStatuses id first = orderStatuses id second
  payment : (first.findPaymentByIntent intent).map factsOf = (second.findPaymentByIntent intent).map factsOf
  refunds : ∀ entry, entry ∈ first.refunds.map withoutPayment ↔ entry ∈ second.refunds.map withoutPayment

/-- An unpaid order with an open session, and the events about its payment
intent, one of which is the completion. -/
structure AwaitsPayment (session : CheckoutSessionObj) (intent : PaymentIntentId) (order : Order)
    (jobs : List StripeJob) (db : Db) : Prop where
  charged : session.paymentIntent = some intent
  payable : settles session db = some order
  keyed : ItemsKeyed db.stock
  unpaid : db.findPaymentByIntent intent = none
  about : ∀ job ∈ jobs, About session intent job.event.object
  once : (notices jobs).countP Notice.isCompletion = 1
  refunds : ∀ first ∈ (notices jobs).flatMap Notice.listed, ∀ second ∈ (notices jobs).flatMap Notice.listed,
    first.id = second.id → first = second
  fresh : ∀ refund ∈ (notices jobs).flatMap Notice.listed, ∀ entry ∈ db.refunds,
    entry.stripeRefundId ≠ some refund.id

variable {session : CheckoutSessionObj} {intent : PaymentIntentId} {order : Order} {db : Db}

theorem notices_perm {processed happened : List StripeJob}
    (perm : (processed.map (·.event)).Perm (happened.map (·.event))) :
    (notices processed).Perm (notices happened) := by
  have heard (jobs : List StripeJob) :
      notices jobs = (jobs.map (·.event)).filterMap fun event => noticeOf event.object := by
    rw [notices, List.filterMap_map]
    rfl
  rw [heard, heard]
  exact perm.filterMap _

def waitingStanding (order : Order) (db : Db) : Standing where
  status := order.status
  financialStatus := order.financialStatus
  payment := none
  refunds := db.refunds.map withoutPayment

theorem AwaitsPayment.start {jobs : List StripeJob} (awaits : AwaitsPayment session intent order jobs db) :
    Tracks session (termsOf session order) intent db (waitingStanding order db) ∧
      Ready session (termsOf session order) intent db ∧ Waits (waitingStanding order db) (notices jobs) := by
  obtain ⟨payable, free⟩ := Option.filter_eq_some_iff.mp awaits.payable
  obtain ⟨named, found, status, financialStatus⟩ := payable_some payable
  have free : intentTaken session order db = false ∧
      conversionTaken (session.metadata.bind (·.cartToken)) order.id db = false := by simpa using free
  refine ⟨?_, ?_, ?_⟩
  · constructor
    · exact named
    · exact ⟨order, found, rfl, rfl⟩
    · rw [awaits.unpaid]
      rfl
    · intro payment present
      rw [awaits.unpaid] at present
      cases present
    · rfl
  · exact ⟨awaits.keyed, awaits.charged, ⟨order, found, rfl, free.1⟩, free.2⟩
  · refine ⟨status, financialStatus, rfl, awaits.once, awaits.refunds, ?_⟩
    intro refund listed entry present
    obtain ⟨row, member, rfl⟩ := List.mem_map.mp present
    exact awaits.fresh refund listed row member

theorem sameRows_iff {terms : Terms} {first second : Db} {one two : Standing}
    (left : Tracks session terms intent first one) (right : Tracks session terms intent second two) :
    SameRows terms.orderId intent first second ↔ SameOutcome one two := by
  obtain ⟨order, found, status, financialStatus⟩ := left.order
  obtain ⟨order', found', status', financialStatus'⟩ := right.order
  have statuses : orderStatuses terms.orderId first = some (one.status, one.financialStatus) := by
    rw [orderStatuses, found, Option.map_some, status, financialStatus]
  have statuses' : orderStatuses terms.orderId second = some (two.status, two.financialStatus) := by
    rw [orderStatuses, found', Option.map_some, status', financialStatus']
  constructor
  · intro same
    have equal := same.order
    rw [statuses, statuses', Option.some.injEq, Prod.mk.injEq] at equal
    refine ⟨equal.1, equal.2, ?_, ?_⟩
    · rw [← left.payment, ← right.payment, same.payment]
    · rw [← left.refunds, ← right.refunds]
      exact same.refunds
  · intro same
    refine ⟨?_, ?_, ?_⟩
    · rw [statuses, statuses', same.status, same.financialStatus]
    · rw [left.payment, right.payment, same.payment]
    · rw [left.refunds, right.refunds]
      exact same.refunds

/-- Processing the events in another order leaves the same rows exactly when
the two orders are compatible. -/
theorem same_rows_iff_compatible {processed happened : List StripeJob}
    (awaits : AwaitsPayment session intent order happened db)
    (perm : (processed.map (·.event)).Perm (happened.map (·.event))) :
    SameRows order.id intent (run deliver db processed) (run deliver db happened) ↔
      Compatible (termsOf session order) (notices processed) (notices happened) := by
  obtain ⟨tracks, ready, waits⟩ := awaits.start
  have heard := notices_perm perm
  have about : ∀ job ∈ processed, About session intent job.event.object := by
    intro job member
    obtain ⟨other, present, same⟩ := List.mem_map.mp (perm.mem_iff.mp (List.mem_map_of_mem member))
    rw [← same]
    exact awaits.about other present
  have pending (jobs : List StripeJob) (once : (notices jobs).countP Notice.isCompletion = 1) :
      Pending session (termsOf session order) intent db (waitingStanding order db)
        ((notices jobs).countP Notice.isCompletion) :=
    .inl ⟨ready, waits.status, waits.financialStatus, Nat.le_of_eq once⟩
  have left := tracks.run processed about (pending processed (by rw [heard.countP_eq]; exact awaits.once))
  have right := tracks.run happened awaits.about (pending happened awaits.once)
  exact (sameRows_iff left right).trans (sameOutcome_iff_compatible waits heard)

def lampJob (event : EventId) (object : StripeObject) : StripeJob where
  event := { id := event, object }
  paymentId := event
  now := 0

def failedAttempt : StripeJob :=
  lampJob 1 (.paymentFailed { id := 1, metadata := lampSession.metadata, lastPaymentErrorMessage := none })

def lampsCompleted : StripeJob :=
  lampJob 2 (.checkoutSessionCompleted lampSession)

def pendingLamps : Db :=
  lampRows (lampOrder .pending .unpaid) []

theorem pendingLamps_awaits : AwaitsPayment lampSession 1 (lampOrder .pending .unpaid)
    [failedAttempt, lampsCompleted] pendingLamps := by
  have about : ∀ job ∈ [failedAttempt, lampsCompleted], About lampSession 1 job.event.object := by
    intro job member
    rcases List.mem_cons.mp member with rfl | member
    · exact ⟨rfl, rfl⟩
    · cases List.mem_singleton.mp member
      rfl
  exact ⟨rfl, by decide, List.nodup_singleton _, rfl, about, rfl, by decide, by decide⟩

/-- A failed attempt that is processed after the completion takes the captured
Payment back to FAILED. -/
theorem late_failure_differs :
    ¬ ∀ session intent order db processed happened, AwaitsPayment session intent order happened db →
      (processed.map (·.event)).Perm (happened.map (·.event)) →
        SameRows order.id intent (run deliver db processed) (run deliver db happened) := by
  intro always
  have same := always lampSession 1 (lampOrder .pending .unpaid) pendingLamps [lampsCompleted, failedAttempt]
    [failedAttempt, lampsCompleted] pendingLamps_awaits (List.Perm.swap _ _ _)
  exact absurd same.payment (by decide)

theorem same_rows_iff_compatible_swapped :
    SameRows (lampOrder .pending .unpaid).id 1 (run deliver pendingLamps [lampsCompleted, failedAttempt])
        (run deliver pendingLamps [failedAttempt, lampsCompleted]) ↔
      Compatible (termsOf lampSession (lampOrder .pending .unpaid)) (notices [lampsCompleted, failedAttempt])
        (notices [failedAttempt, lampsCompleted]) :=
  same_rows_iff_compatible pendingLamps_awaits (List.Perm.swap _ _ _)

end Aicos.Properties
