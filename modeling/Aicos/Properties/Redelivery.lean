import Aicos.Settlement.Requests

namespace Aicos.Properties

open Aicos.Commerce Aicos.Billing Aicos.Data Aicos.Settlement Aicos.Transition

/-! Redelivery of a completed session.  The status test of `onCheckoutCompleted`
recognises the order as long as no refund has taken its PAID status away. -/

def PaidStatus (id : OrderId) (db : Db) : Prop :=
  ∃ order, db.findOrder id = some order ∧ order.status = .paid

/-- The request refunds the captured payment of the order at once and in full:
Stripe grants an admin refund of all of it, or an event lists at least as much. -/
def RefundsInFull (id : OrderId) (worker : Worker) : Request → Prop
  | .refundOrder stripe target dto => target = id ∧ stripe.configured = true ∧
      ∃ order payment intent stripeRefundId, worker.db.findOrder id = some order ∧
        Orders.captured (Orders.latestPayments id worker.db) = some (payment, intent) ∧
        dto.amountCents.getD payment.amountCents = payment.amountCents ∧
        stripe.refund {
          paymentIntent := intent
          amount := payment.amountCents
          reverseTransfer := order.applicationFeeCents > 0 } = some stripeRefundId
  | .deliver job _ => job.event.id ∉ worker.done ∧ ∃ charge intent payment,
      job.event.object = .chargeRefunded charge ∧ charge.paymentIntent = some intent ∧
      worker.db.findPaymentByIntent intent = some payment ∧ payment.orderId = id ∧
      payment.amountCents ≤ totalRefunded (charge.refunds.getD [])
  | _ => False

section Orders

variable {id target : OrderId} {db after : Db}

theorem PaidStatus.update (change : Order → Order) (paid : PaidStatus id db)
    (keyed : ∀ order, (change order).id = order.id)
    (kept : ∀ order, target = id → order.status = .paid → (change order).status = .paid)
    (orders : after.orders = updateWhere (fun row => row.id = target) change db.orders) :
    PaidStatus id after := by
  obtain ⟨order, found, status⟩ := paid
  have moved := Db.findOrder_update db target id change keyed
  have there : after.findOrder id = ({ db with
      orders := updateWhere (fun row => row.id = target) change db.orders } : Db).findOrder id := by
    simp only [Db.findOrder, orders]
  rw [moved, found] at there
  refine ⟨_, there, ?_⟩
  by_cases hit : order.id = target
  · have same : target = id := hit.symm.trans (Db.findOrder_id found)
    simpa only [if_pos hit] using kept order same status
  · simpa only [if_neg hit] using status

theorem PaidStatus.of_orders (paid : PaidStatus id db) (same : after.orders = db.orders) :
    PaidStatus id after := by
  obtain ⟨order, found, status⟩ := paid
  exact ⟨order, by simpa only [Db.findOrder, same] using found, status⟩

theorem onChargeRefunded_paidStatus {charge : ChargeObj} (paid : PaidStatus id db)
    (partly : ∀ intent payment, charge.paymentIntent = some intent → db.findPaymentByIntent intent = some payment →
      payment.orderId = id → totalRefunded (charge.refunds.getD []) < payment.amountCents)
    (handled : onChargeRefunded charge db = .ok after) : PaidStatus id after := by
  rcases onChargeRefunded_ok handled with ⟨rfl, _⟩ | ⟨intent, payment, order, fully, carried, found, _, full, rfl⟩
  · exact paid
  · refine paid.update (refundedOrder fully) (fun _ => rfl) ?_ rfl
    intro order same status
    have part := partly intent payment carried found same
    have still : fully = false := by
      rw [full]
      exact decide_eq_false (Int.not_le.mpr part)
    simp [refundedOrder, still, status]

theorem onCheckoutCompleted_paidStatus {session : CheckoutSessionObj} {paymentId : PaymentId} {now : Instant}
    {confirmation : Option Confirmation} (paid : PaidStatus id db)
    (handled : onCheckoutCompleted session paymentId now db = .ok (confirmation, after)) :
    PaidStatus id after := by
  rcases onCheckoutCompleted_ok handled with ⟨_, rfl⟩ | ⟨_, order, _, _, _, _, _, _, settled⟩
  · exact paid
  · obtain ⟨oversold, stock, _, _, rfl⟩ := settle_ok settled
    exact paid.update (paidOrder session now) (fun _ => rfl) (fun _ _ _ => rfl) rfl

theorem handle_paidStatus {job : StripeJob} (paid : PaidStatus id db)
    (partly : ∀ charge intent payment, job.event.object = .chargeRefunded charge →
      charge.paymentIntent = some intent → db.findPaymentByIntent intent = some payment →
      payment.orderId = id → totalRefunded (charge.refunds.getD []) < payment.amountCents)
    (handled : handle job db = .ok after) : PaidStatus id after := by
  rcases handle_ok handled with ⟨session, confirmation, _, completed⟩ | ⟨intent, _, rfl⟩ |
    ⟨charge, object, refunded⟩ | ⟨account, _, rfl⟩ | ⟨_, rfl⟩
  · exact onCheckoutCompleted_paidStatus paid completed
  · exact paid.of_orders (by rw [onPaymentFailed_eq])
  · exact onChargeRefunded_paidStatus paid (fun intent payment => partly charge intent payment object) refunded
  · exact paid.of_orders (by rw [onAccountUpdated_eq])
  · exact paid

theorem refundOrder_paidStatus {stripe : Orders.StripeApi} {dto : Orders.RefundOrderDto} {done : List EventId}
    (paid : PaidStatus id db) (partly : ¬ RefundsInFull id { db, done } (.refundOrder stripe target dto))
    (refunded : Orders.refund stripe target dto db = .ok after) : PaidStatus id after := by
  obtain ⟨plan, stripeRefundId, planned, configured, granted, recorded⟩ := Orders.refund_ok refunded
  obtain ⟨found, named, held, amount, within, reverse⟩ := Orders.planRefund_ok planned
  rw [Orders.recordRefund_ok recorded]
  refine paid.update (refundedOrder plan.fully) (fun _ => rfl) ?_ rfl
  intro order same status
  have mine : target = id := named.symm.trans same
  have part : plan.fully = false := by
    rw [Orders.RefundPlan.fully, decide_eq_false_iff_not]
    intro full
    subst mine
    have all : plan.amount = plan.payment.amountCents := Int.le_antisymm within full
    refine partly ⟨rfl, configured, plan.order, plan.payment, plan.intent, stripeRefundId, found, held, ?_, ?_⟩
    · rw [← amount, all]
    · rw [← granted, Orders.RefundPlan.request, all, reverse]
  simp [refundedOrder, part, status]

theorem refundReturn_paidStatus {stripe : Orders.StripeApi} {ret : ReturnId} {now : Instant}
    (paid : PaidStatus id db) (refunded : Returns.refund stripe ret now db = .ok after) :
    PaidStatus id after := by
  rcases Returns.refund_ok refunded with rfl | ⟨read, plan, stripeRefundId, _, _, _, recorded⟩
  · exact paid
  · obtain ⟨stock, _, rfl⟩ := Returns.recordRefund_ok recorded
    cases held : plan.payment with
    | none => exact paid.of_orders rfl
    | some pair =>
        -- a return refund leaves the order's status alone
        exact paid.update (Returns.returnedOrder (plan.amount ≥ pair.1.amountCents))
          (fun _ => rfl) (fun _ _ status => status) rfl

theorem body_paidStatus {worker : Worker} {request : Request} (paid : PaidStatus id worker.db)
    (partly : ¬ RefundsInFull id worker request) (fresh : ∀ job crash, request = .deliver job crash →
      job.event.id ∉ worker.done)
    (ran : request.body worker.db = .ok after) : PaidStatus id after := by
  cases request with
  | deliver job crash =>
      refine handle_paidStatus paid ?_ ran
      intro charge intent payment object carried found mine
      by_contra full
      exact partly ⟨fresh job crash rfl, charge, intent, payment, object, carried, found, mine, Int.not_lt.mp full⟩
  | expire event => cases ran; exact paid
  | refundOrder stripe target dto => exact refundOrder_paidStatus paid partly ran
  | requestReturn insensitive slug dto ret =>
      obtain ⟨_, _, _, _, _, rfl⟩ := requestReturn_ok ran
      exact paid.of_orders rfl
  | approve ret =>
      obtain ⟨_, _, _, rfl⟩ := Returns.approve_ok ran
      exact paid.of_orders rfl
  | reject ret =>
      obtain ⟨_, _, _, rfl⟩ := Returns.reject_ok ran
      exact paid.of_orders rfl
  | refundReturn stripe ret now => exact refundReturn_paidStatus paid ran

end Orders

theorem settled_paidStatus {session : CheckoutSessionObj} {paymentId : PaymentId} {now : Instant}
    {db after : Db} {confirmation : Confirmation}
    (settled : onCheckoutCompleted session paymentId now db = .ok (some confirmation, after)) :
    ∃ metadata id, session.metadata = some metadata ∧ metadata.orderId = some id ∧ PaidStatus id after := by
  rcases onCheckoutCompleted_ok settled with ⟨impossible, _⟩ |
    ⟨metadata, order, carried, _, named, found, _, _, settled⟩
  · cases impossible
  · obtain ⟨oversold, stock, _, _, rfl⟩ := settle_ok settled
    refine ⟨metadata, order.id, carried, named, paidOrder session now order, ?_, rfl⟩
    have moved := Db.findOrder_update db order.id order.id (paidOrder session now) fun _ => rfl
    rw [found] at moved
    simpa [Db.findOrder] using moved

/-- Once a completed session has been settled, and as long as its order is not
refunded in full, handling the session again changes no row. -/
theorem redelivery_changes_nothing {session : CheckoutSessionObj} {paymentId : PaymentId} {now : Instant}
    {db after : Db} {confirmation : Confirmation} {done : List EventId} {requests : List Request}
    (settled : onCheckoutCompleted session paymentId now db = .ok (some confirmation, after))
    (partly : Along step (fun worker request => ∀ id, session.metadata.bind (·.orderId) = some id →
      ¬ RefundsInFull id worker request) { db := after, done } requests) :
    Visits step (fun worker => ∀ again at_, onCheckoutCompleted session again at_ worker.db = .ok (none, worker.db))
      { db := after, done } requests := by
  obtain ⟨metadata, id, carried, named, paid⟩ := settled_paidStatus settled
  have about : session.metadata.bind (·.orderId) = some id := by rw [carried]; exact named
  have preserved : ∀ (worker : Worker) request, PaidStatus id worker.db →
      (∀ id, session.metadata.bind (·.orderId) = some id → ¬ RefundsInFull id worker request) →
      PaidStatus id (step worker request).db := by
    intro worker request paid partly
    exact step_preserves paid fun fresh after ran => body_paidStatus paid (partly id about) fresh ran
  apply (visits_of_along preserved paid partly).mono
  intro worker paid again at_
  obtain ⟨order, found, status⟩ := paid
  exact onCheckoutCompleted_paid carried named found (.inl status)

def lampsPaid : Db :=
  commit (handle ⟨⟨1, .checkoutSessionCompleted lampSession⟩, 1, 0⟩) (lampRows (lampOrder .pending .unpaid) [])

def lampsConfirmed : Confirmation where
  email := some "ada@example.com"
  number := 1001
  total := 1000
  currency := "USD"
  oversold := []

theorem lampsPaid_settled :
    onCheckoutCompleted lampSession 1 0 (lampRows (lampOrder .pending .unpaid) []) =
      .ok (some lampsConfirmed, lampsPaid) := by
  decide

def fullRefund : Orders.RefundOrderDto := ⟨none, none, by simp⟩

/-- The order is refunded in full, and its session is delivered again. -/
theorem redelivery_sells_again :
    ¬ ∀ session paymentId now db after confirmation done requests,
      onCheckoutCompleted session paymentId now db = .ok (some confirmation, after) →
      Visits step (fun worker => ∀ again at_ result rows,
          onCheckoutCompleted session again at_ worker.db = .ok (result, rows) → rows = worker.db)
        { db := after, done } requests := by
  intro always
  have visits := always lampSession 1 0 _ _ _ [] [.refundOrder (granting 1) 1 fullRefund] lampsPaid_settled
  have unchanged := visits.last 2 0 (some lampsConfirmed)
  exact absurd (unchanged _ rfl) (by decide)

def partRefund : Orders.RefundOrderDto where
  amountCents := some 400
  reason := none
  positive := by
    intro amount asked
    cases asked
    decide

theorem redelivery_changes_nothing_partly_refunded :
    Visits step (fun worker => ∀ again at_,
        onCheckoutCompleted lampSession again at_ worker.db = .ok (none, worker.db))
      { db := lampsPaid, done := [] }
      [.refundOrder (granting 1) 1 partRefund] := by
  refine redelivery_changes_nothing lampsPaid_settled ⟨?_, trivial⟩
  rintro _ ⟨⟩ ⟨_, _, order, payment, intent, _, _, held, all, _⟩
  have first : Orders.captured (Orders.latestPayments 1 lampsPaid) = some (lampPayment, 1) := by decide
  obtain ⟨rfl, rfl⟩ := Prod.mk.inj (Option.some.inj (first.symm.trans held))
  exact absurd all (by decide)

end Aicos.Properties
