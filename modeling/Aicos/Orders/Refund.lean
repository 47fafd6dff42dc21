import Aicos.Commerce.Tables
import Aicos.Billing.Processor

namespace Aicos.Orders

open Aicos.Commerce Aicos.Billing Aicos.Data

/-! `OrdersService.refund`: read and check, refund at Stripe, record. -/

structure StripeRefundRequest where
  paymentIntent : PaymentIntentId
  amount : Int
  reverseTransfer : Bool
deriving DecidableEq

/-- The outbound Stripe client; a refund it rejects throws. -/
structure StripeApi where
  configured : Bool
  refund : StripeRefundRequest → Option StripeRefundId

/-- `RefundOrderDto`, with its `@Min(1)`. -/
structure RefundOrderDto where
  amountCents : Option Int
  reason : Option String
  positive : ∀ amount ∈ amountCents, 1 ≤ amount

structure RefundPlan where
  order : Order
  payment : Payment
  intent : PaymentIntentId
  amount : Int
  reverseTransfer : Bool
deriving DecidableEq

/-- The first payment with captured money, with its payment intent. -/
def captured (payments : List Payment) : Option (Payment × PaymentIntentId) :=
  payments.findSome? fun payment =>
    if payment.status = .succeeded then payment.stripePaymentIntentId.map fun intent => (payment, intent)
    else none

/-- `include: { payments: { orderBy: { createdAt: 'desc' } } }`. -/
def latestPayments (id : OrderId) (db : Db) : List Payment :=
  (db.payments.filter fun payment => payment.orderId = id).reverse

/-- The read transaction of `refund`, with the checks on it. -/
def planRefund (id : OrderId) (dto : RefundOrderDto) (db : Db) : Tx RefundPlan :=
  match db.findOrder id with
  | none => throw (.http (.notFound "Order not found"))
  | some order =>
      match captured (latestPayments id db) with
      | none => throw (.http (.badRequest "Order has no captured payment to refund"))
      | some (payment, intent) =>
          let amount := dto.amountCents.getD payment.amountCents
          if amount > payment.amountCents then
            throw (.http (.badRequest s!"Refund {amount} exceeds captured amount {payment.amountCents}"))
          else pure { order, payment, intent, amount, reverseTransfer := order.applicationFeeCents > 0 }

def RefundPlan.request (plan : RefundPlan) : StripeRefundRequest where
  paymentIntent := plan.intent
  amount := plan.amount
  reverseTransfer := plan.reverseTransfer

def RefundPlan.fully (plan : RefundPlan) : Bool :=
  plan.amount ≥ plan.payment.amountCents

def RefundPlan.row (plan : RefundPlan) (reason : Option String) (stripeRefundId : StripeRefundId) :
    Refund where
  orderId := plan.order.id
  paymentId := plan.payment.id
  amountCents := plan.amount
  currency := plan.order.currency
  reason := reason
  reverseTransfer := plan.reverseTransfer
  stripeRefundId := some stripeRefundId

/-- The write transaction of `refund`. -/
def recordRefund (plan : RefundPlan) (reason : Option String) (stripeRefundId : StripeRefundId)
    (db : Db) : Tx Db := do
  let db ← db.createRefund (plan.row reason stripeRefundId)
  let db ← db.updateOrder plan.order.id (refundedOrder plan.fully)
  if plan.fully then db.updatePayment plan.payment.id refundedPayment else pure db

def refund (stripe : StripeApi) (id : OrderId) (dto : RefundOrderDto) (db : Db) : Tx Db := do
  let plan ← planRefund id dto db
  if ¬ stripe.configured then throw (.http (.serviceUnavailable "Stripe is not configured"))
  else
    match stripe.refund plan.request with
    | none => throw .stripe
    | some stripeRefundId => recordRefund plan dto.reason stripeRefundId db

theorem captured_some {payments : List Payment} {payment : Payment} {intent : PaymentIntentId}
    (found : captured payments = some (payment, intent)) :
    payment ∈ payments ∧ payment.status = .succeeded ∧ payment.stripePaymentIntentId = some intent := by
  obtain ⟨row, member, picked⟩ := List.exists_of_findSome?_eq_some found
  split at picked
  · rename_i succeeded
    obtain ⟨value, carried, same⟩ := Option.map_eq_some_iff.mp picked
    cases same
    exact ⟨member, succeeded, carried⟩
  · cases picked

theorem planRefund_ok {id : OrderId} {dto : RefundOrderDto} {db : Db} {plan : RefundPlan}
    (planned : planRefund id dto db = .ok plan) :
    db.findOrder id = some plan.order ∧ plan.order.id = id ∧
      captured (latestPayments id db) = some (plan.payment, plan.intent) ∧
      plan.amount = dto.amountCents.getD plan.payment.amountCents ∧
      plan.amount ≤ plan.payment.amountCents ∧
      plan.reverseTransfer = decide (plan.order.applicationFeeCents > 0) := by
  unfold planRefund at planned
  cases found : db.findOrder id with
  | none => simp only [found] at planned; cases planned
  | some order =>
      cases held : captured (latestPayments id db) with
      | none => simp only [found, held] at planned; cases planned
      | some pair =>
          simp only [found, held] at planned
          split at planned
          · cases planned
          · rename_i fits
            cases planned
            exact ⟨rfl, Db.findOrder_id found, rfl, rfl, Int.not_lt.mp fits, rfl⟩

theorem latestPayments_mem {id : OrderId} {db : Db} {payment : Payment} :
    payment ∈ latestPayments id db ↔ payment ∈ db.payments ∧ payment.orderId = id := by
  simp [latestPayments]

theorem recordRefund_ok {plan : RefundPlan} {reason : Option String} {stripeRefundId : StripeRefundId}
    {db after : Db} (recorded : recordRefund plan reason stripeRefundId db = .ok after) :
    after = { db with
      refunds := db.refunds ++ [plan.row reason stripeRefundId]
      orders := updateWhere (fun row => row.id = plan.order.id) (refundedOrder plan.fully) db.orders
      payments := if plan.fully then
          updateWhere (fun row => row.id = plan.payment.id) refundedPayment db.payments
        else db.payments } := by
  unfold recordRefund at recorded
  obtain ⟨first, created, recorded⟩ := bind_eq_ok.mp recorded
  have refunds := Db.createRefund_ok created
  obtain ⟨second, updated, recorded⟩ := bind_eq_ok.mp recorded
  obtain ⟨_, rfl⟩ := Db.updateOrder_ok updated
  subst refunds
  by_cases fully : plan.fully = true
  · simp only [fully, if_true] at recorded ⊢
    exact (Db.updatePayment_ok recorded).2
  · simp only [fully] at recorded ⊢
    cases recorded
    rfl

theorem refund_ok {stripe : StripeApi} {id : OrderId} {dto : RefundOrderDto} {db after : Db}
    (refunded : refund stripe id dto db = .ok after) :
    ∃ plan stripeRefundId, planRefund id dto db = .ok plan ∧ stripe.configured = true ∧
      stripe.refund plan.request = some stripeRefundId ∧
      recordRefund plan dto.reason stripeRefundId db = .ok after := by
  unfold refund at refunded
  obtain ⟨plan, planned, refunded⟩ := bind_eq_ok.mp refunded
  split at refunded
  · cases refunded
  · rename_i configured
    cases called : stripe.refund plan.request with
    | none => simp only [called] at refunded; cases refunded
    | some stripeRefundId =>
        simp only [called] at refunded
        exact ⟨plan, stripeRefundId, planned, by simpa using configured, called, refunded⟩

end Aicos.Orders
