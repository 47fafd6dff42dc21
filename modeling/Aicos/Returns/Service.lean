import Aicos.Orders.Refund
import Aicos.Returns.Restock

namespace Aicos.Returns

open Aicos.Commerce Aicos.Billing Aicos.Orders Aicos.Data

/-! `ReturnsService`: approve, reject and refund a return.  Each request reads in
one transaction and writes in a later one, with the Stripe call between them. -/

/-- A return with its order and the order's payments, as `requireReturn` includes them. -/
structure ReturnRead where
  ret : Return
  order : Order
  payments : List Payment
deriving DecidableEq

/-- The order of a return is always there: its foreign key cascades. -/
def requireReturn (id : ReturnId) (db : Db) : Tx ReturnRead :=
  match db.findReturn id with
  | none => throw (.http (.notFound "Return not found"))
  | some ret =>
      match db.findOrder ret.orderId with
      | none => throw (.http (.notFound "Return not found"))
      | some order =>
          pure { ret, order, payments := db.payments.filter fun payment => payment.orderId = order.id }

def checkApprove (read : ReturnRead) : Tx Unit :=
  if read.ret.status ≠ .requested then
    throw (.http (.badRequest s!"Cannot approve a return in status {read.ret.status.text}"))
  else pure ()

def checkReject (read : ReturnRead) : Tx Unit :=
  if read.ret.status = .refunded then
    throw (.http (.badRequest "Cannot reject an already-refunded return"))
  else pure ()

def recordStatus (id : ReturnId) (status : ReturnStatus) (db : Db) : Tx Db :=
  db.updateReturn id fun ret => { ret with status }

structure ReturnRefundPlan where
  ret : Return
  order : Order
  payment : Option (Payment × PaymentIntentId)
  amount : Int
deriving DecidableEq

def refundAmount (items : List ReturnItem) : Int :=
  (items.map fun line => line.orderItem.unitPriceCents * (line.quantity : Int)).sum

/-- The checks of `refund`; a refunded return needs no work. -/
def planRefund (read : ReturnRead) : Tx (Option ReturnRefundPlan) :=
  if read.ret.status = .refunded then pure none
  else if read.ret.status = .rejected then
    throw (.http (.badRequest "Cannot refund a rejected return"))
  else pure (some {
    ret := read.ret
    order := read.order
    payment := captured read.payments
    amount := refundAmount read.ret.items })

def ReturnRefundPlan.request (plan : ReturnRefundPlan) : Option StripeRefundRequest :=
  match plan.payment with
  | none => none
  | some (_, intent) =>
      if plan.amount > 0 then
        some {
          paymentIntent := intent
          amount := plan.amount
          reverseTransfer := plan.order.applicationFeeCents > 0 }
      else none

/-- The money leg; without an API key the refund is recorded as a manual one. -/
def callStripe (stripe : StripeApi) (plan : ReturnRefundPlan) : Tx (Option StripeRefundId) :=
  match plan.request with
  | none => pure none
  | some request =>
      if ¬ stripe.configured then pure none
      else
        match stripe.refund request with
        | none => throw .stripe
        | some stripeRefundId => pure (some stripeRefundId)

def ReturnRefundPlan.row (plan : ReturnRefundPlan) (payment : Payment)
    (stripeRefundId : Option StripeRefundId) : Refund where
  orderId := plan.order.id
  paymentId := payment.id
  amountCents := plan.amount
  currency := plan.order.currency
  reason := some "return"
  reverseTransfer := plan.order.applicationFeeCents > 0
  stripeRefundId := stripeRefundId

def returnedOrder (fully : Bool) (order : Order) : Order :=
  { order with financialStatus := if fully then .refunded else .partiallyRefunded }

def refundedReturn (receivedAt : Option Instant) (now : Instant) (ret : Return) : Return :=
  { ret with
    status := .refunded
    receivedAt := some (receivedAt.getD now)
    refundedAt := some now }

def recordMoney (plan : ReturnRefundPlan) (stripeRefundId : Option StripeRefundId) (db : Db) : Tx Db :=
  match plan.payment with
  | none => pure db
  | some (payment, _) => do
      let db ← db.createRefund (plan.row payment stripeRefundId)
      db.updateOrder plan.order.id (returnedOrder (plan.amount ≥ payment.amountCents))

/-- The write transaction of `refund`. -/
def recordRefund (plan : ReturnRefundPlan) (stripeRefundId : Option StripeRefundId) (now : Instant)
    (db : Db) : Tx Db := do
  let (_, db) ← db.onStock (restockItems plan.ret.id now plan.ret.items)
  let db ← recordMoney plan stripeRefundId db
  db.updateReturn plan.ret.id (refundedReturn plan.ret.receivedAt now)

def approve (id : ReturnId) (db : Db) : Tx Db := do
  let read ← requireReturn id db
  checkApprove read
  recordStatus id .approved db

def reject (id : ReturnId) (db : Db) : Tx Db := do
  let read ← requireReturn id db
  checkReject read
  recordStatus id .rejected db

/-- Refund a return: restock its items, return the money, mark it REFUNDED. -/
def refund (stripe : StripeApi) (id : ReturnId) (now : Instant) (db : Db) : Tx Db := do
  let read ← requireReturn id db
  match ← planRefund read with
  | none => pure db
  | some plan => do
      let stripeRefundId ← callStripe stripe plan
      recordRefund plan stripeRefundId now db

theorem requireReturn_ok {id : ReturnId} {db : Db} {read : ReturnRead}
    (required : requireReturn id db = .ok read) :
    db.findReturn id = some read.ret ∧ db.findOrder read.ret.orderId = some read.order ∧
      read.payments = db.payments.filter fun payment => payment.orderId = read.order.id := by
  unfold requireReturn at required
  cases found : db.findReturn id with
  | none => simp only [found] at required; cases required
  | some ret =>
      cases there : db.findOrder ret.orderId with
      | none => simp only [found, there] at required; cases required
      | some order =>
          simp only [found, there] at required
          cases required
          exact ⟨rfl, there, rfl⟩

theorem planRefund_ok {read : ReturnRead} {plan : ReturnRefundPlan}
    (planned : planRefund read = .ok (some plan)) :
    read.ret.status ≠ .refunded ∧ read.ret.status ≠ .rejected ∧ plan.ret = read.ret ∧
      plan.order = read.order ∧ plan.payment = captured read.payments ∧
      plan.amount = refundAmount read.ret.items := by
  unfold planRefund at planned
  split at planned
  · cases planned
  · split at planned
    · cases planned
    · cases planned
      exact ⟨‹_›, ‹_›, rfl, rfl, rfl, rfl⟩

theorem recordRefund_ok {plan : ReturnRefundPlan} {stripeRefundId : Option StripeRefundId} {now : Instant}
    {db after : Db} (recorded : recordRefund plan stripeRefundId now db = .ok after) :
    ∃ stock, (restockItems plan.ret.id now plan.ret.items).alone Inventory.stockStore db.stock = .ok ((), stock) ∧
      after = { db with
        stock
        refunds := db.refunds ++ (match plan.payment with
          | none => []
          | some (payment, _) => [plan.row payment stripeRefundId])
        orders := match plan.payment with
          | none => db.orders
          | some (payment, _) => updateWhere (fun row => row.id = plan.order.id)
              (returnedOrder (plan.amount ≥ payment.amountCents)) db.orders
        returns := updateWhere (fun row => row.id = plan.ret.id)
          (refundedReturn plan.ret.receivedAt now) db.returns } := by
  unfold recordRefund at recorded
  obtain ⟨⟨_, first⟩, restocked, recorded⟩ := bind_eq_ok.mp recorded
  obtain ⟨stock, alone, rfl⟩ := Db.onStock_ok restocked
  obtain ⟨second, paid, recorded⟩ := bind_eq_ok.mp recorded
  obtain ⟨_, rfl⟩ := Db.updateReturn_ok recorded
  refine ⟨stock, alone, ?_⟩
  cases held : plan.payment with
  | none =>
      simp only [recordMoney, held] at paid
      cases paid
      simp
  | some pair =>
      simp only [recordMoney, held] at paid
      obtain ⟨third, created, updated⟩ := bind_eq_ok.mp paid
      have refunds := Db.createRefund_ok created
      obtain ⟨_, rfl⟩ := Db.updateOrder_ok updated
      subst refunds
      rfl

theorem refund_ok {stripe : StripeApi} {id : ReturnId} {now : Instant} {db after : Db}
    (refunded : refund stripe id now db = .ok after) :
    after = db ∨ ∃ read plan stripeRefundId, requireReturn id db = .ok read ∧
      planRefund read = .ok (some plan) ∧ callStripe stripe plan = .ok stripeRefundId ∧
      recordRefund plan stripeRefundId now db = .ok after := by
  unfold refund at refunded
  obtain ⟨read, required, refunded⟩ := bind_eq_ok.mp refunded
  obtain ⟨plan, planned, refunded⟩ := bind_eq_ok.mp refunded
  cases plan with
  | none =>
      cases refunded
      exact .inl rfl
  | some plan =>
      obtain ⟨stripeRefundId, called, refunded⟩ := bind_eq_ok.mp refunded
      exact .inr ⟨read, plan, stripeRefundId, required, planned, called, refunded⟩

theorem approve_ok {id : ReturnId} {db after : Db} (approved : approve id db = .ok after) :
    ∃ ret, db.findReturn id = some ret ∧ ret.status = .requested ∧
      after = { db with
        returns := updateWhere (fun row => row.id = id) (fun ret => { ret with status := .approved }) db.returns } := by
  unfold approve at approved
  obtain ⟨read, required, approved⟩ := bind_eq_ok.mp approved
  obtain ⟨_, checked, approved⟩ := bind_eq_ok.mp approved
  refine ⟨read.ret, (requireReturn_ok required).1, ?_, (Db.updateReturn_ok approved).2⟩
  by_contra other
  rw [checkApprove, if_pos other] at checked
  cases checked

theorem reject_ok {id : ReturnId} {db after : Db} (rejected : reject id db = .ok after) :
    ∃ ret, db.findReturn id = some ret ∧ ret.status ≠ .refunded ∧
      after = { db with
        returns := updateWhere (fun row => row.id = id) (fun ret => { ret with status := .rejected }) db.returns } := by
  unfold reject at rejected
  obtain ⟨read, required, rejected⟩ := bind_eq_ok.mp rejected
  obtain ⟨_, checked, rejected⟩ := bind_eq_ok.mp rejected
  refine ⟨read.ret, (requireReturn_ok required).1, ?_, (Db.updateReturn_ok rejected).2⟩
  intro refunded
  rw [checkReject, if_pos refunded] at checked
  cases checked

end Aicos.Returns
