import Aicos.Billing.Processor
import Aicos.Orders.Refund
import Aicos.Returns.Portal
import Aicos.Returns.Service
import Aicos.Transition.Run

namespace Aicos.Settlement

open Aicos.Commerce Aicos.Billing Aicos.Orders Aicos.Returns

/-! Stripe jobs, refunds and returns of one tenant, one request after another. -/

inductive Request where
  /-- A `stripe.event` job; with `crash` the worker stops before the done-marker. -/
  | deliver (job : StripeJob) (crash : Bool)
  /-- The done-marker of an event expires. -/
  | expire (event : EventId)
  | refundOrder (stripe : StripeApi) (id : OrderId) (dto : RefundOrderDto)
  | requestReturn (insensitive : String → String → Bool) (slug : String) (dto : RequestReturnDto)
      (id : ReturnId)
  | approve (id : ReturnId)
  | reject (id : ReturnId)
  | refundReturn (stripe : StripeApi) (id : ReturnId) (now : Instant)

def Request.body : Request → Db → Tx Db
  | .deliver job _ => handle job
  | .expire _ => pure
  | .refundOrder stripe id dto => Orders.refund stripe id dto
  | .requestReturn insensitive slug dto id => Returns.requestReturn insensitive slug dto id
  | .approve id => Returns.approve id
  | .reject id => Returns.reject id
  | .refundReturn stripe id now => Returns.refund stripe id now

def step (worker : Worker) : Request → Worker
  | .deliver job crash => process job crash worker
  | .expire event => { worker with done := worker.done.filter fun other => other ≠ event }
  | request => { worker with db := commit request.body worker.db }

/-- A request leaves the rows as they are, or commits what its body returns; a
job whose marker is set does not run. -/
theorem step_db (worker : Worker) (request : Request) :
    (step worker request).db = worker.db ∨
      ((∀ job crash, request = .deliver job crash → job.event.id ∉ worker.done) ∧
        request.body worker.db = .ok (step worker request).db) := by
  have committed (body : Db → Tx Db) :
      commit body worker.db = worker.db ∨ body worker.db = .ok (commit body worker.db) := by
    cases ran : body worker.db with
    | error failure => exact .inl (by simp only [commit, ran])
    | ok after => exact .inr (by simp only [commit, ran])
  have other {body : Db → Tx Db} (apart : ∀ job crash, request ≠ .deliver job crash)
      (outcome : commit body worker.db = worker.db ∨ body worker.db = .ok (commit body worker.db)) :
      commit body worker.db = worker.db ∨
        ((∀ job crash, request = .deliver job crash → job.event.id ∉ worker.done) ∧
          body worker.db = .ok (commit body worker.db)) :=
    outcome.imp id fun ran => ⟨fun job crash same => absurd same (apart job crash), ran⟩
  cases request with
  | deliver job crash =>
      simp only [step, process]
      split
      · exact .inl rfl
      · rename_i fresh
        cases handled : handle job worker.db with
        | error failure => exact .inl rfl
        | ok after =>
            refine .inr ⟨?_, handled⟩
            intro same crashed equal
            cases equal
            exact fresh
  | expire event => exact .inl rfl
  | refundOrder stripe id dto => exact other (by simp) (committed _)
  | requestReturn insensitive slug dto id => exact other (by simp) (committed _)
  | approve id => exact other (by simp) (committed _)
  | reject id => exact other (by simp) (committed _)
  | refundReturn stripe id now => exact other (by simp) (committed _)

theorem step_preserves {good : Db → Prop} {worker : Worker} {request : Request}
    (holds : good worker.db)
    (kept : (∀ job crash, request = .deliver job crash → job.event.id ∉ worker.done) →
      ∀ after, request.body worker.db = .ok after → good after) :
    good (step worker request).db := by
  rcases step_db worker request with same | ⟨fresh, ran⟩
  · rw [same]
    exact holds
  · exact kept fresh _ ran

theorem handle_ok {job : StripeJob} {db after : Db} (handled : handle job db = .ok after) :
    (∃ session confirmation, job.event.object = .checkoutSessionCompleted session ∧
        onCheckoutCompleted session job.paymentId job.now db = .ok (confirmation, after)) ∨
      (∃ intent, job.event.object = .paymentFailed intent ∧ after = onPaymentFailed intent job.paymentId db) ∨
      (∃ charge, job.event.object = .chargeRefunded charge ∧ onChargeRefunded charge db = .ok after) ∨
      (∃ account, job.event.object = .accountUpdated account ∧ after = onAccountUpdated account db) ∨
      (job.event.object = .unhandled ∧ after = db) := by
  unfold handle at handled
  cases object : job.event.object with
  | checkoutSessionCompleted session =>
      simp only [object] at handled
      obtain ⟨⟨confirmation, last⟩, completed, returned⟩ := bind_eq_ok.mp handled
      cases returned
      exact .inl ⟨session, confirmation, rfl, completed⟩
  | paymentFailed intent =>
      simp only [object] at handled
      cases handled
      exact .inr (.inl ⟨intent, rfl, rfl⟩)
  | chargeRefunded charge =>
      simp only [object] at handled
      exact .inr (.inr (.inl ⟨charge, rfl, handled⟩))
  | accountUpdated account =>
      simp only [object] at handled
      cases handled
      exact .inr (.inr (.inr (.inl ⟨account, rfl, rfl⟩)))
  | unhandled =>
      simp only [object] at handled
      cases handled
      exact .inr (.inr (.inr (.inr ⟨rfl, rfl⟩)))

theorem requestReturn_ok {insensitive : String → String → Bool} {slug : String} {dto : RequestReturnDto}
    {id : ReturnId} {db after : Db}
    (requested : Returns.requestReturn insensitive slug dto id db = .ok after) :
    ∃ order items, lookupOrder insensitive dto db = some order ∧ checkLines order.items dto.items = .ok items ∧
      (∀ other ∈ db.returns, other.id ≠ id) ∧
      after = { db with returns := db.returns ++ [newReturn id order dto.reason items] } := by
  unfold Returns.requestReturn at requested
  cases store : db.publishedStore slug with
  | none => simp only [store] at requested; cases requested
  | some row =>
      cases found : lookupOrder insensitive dto db with
      | none => simp only [store, found] at requested; cases requested
      | some order =>
          simp only [store, found] at requested
          obtain ⟨items, checked, created⟩ := bind_eq_ok.mp requested
          obtain ⟨fresh, after⟩ := Db.createReturn_ok created
          exact ⟨order, items, rfl, checked, fresh, after⟩

/-! An order of two lamps at 500 each, as checkout leaves it. -/

def twoLamps : OrderItem where
  id := 11
  variantId := some 7
  productTitle := "Lamp"
  variantTitle := none
  sku := none
  quantity := 2
  unitPriceCents := 500
  totalCents := 1000

def lampOrder (status : OrderStatus) (financialStatus : FinancialStatus) : Order where
  id := 1
  storeId := 1
  number := 1001
  status := status
  financialStatus := financialStatus
  currency := "USD"
  subtotalCents := 1000
  taxCents := 0
  totalCents := 1000
  applicationFeeCents := 0
  shippingAddress := none
  billingAddress := none
  email := some "ada@example.com"
  stripeCheckoutSessionId := some 1
  stripePaymentIntentId := some 1
  placedAt := none
  createdAt := 0
  items := [twoLamps]

def lampShelf : Inventory where
  items := [{
    id := 1, variantId := 7, locationId := 3, onHand := 5, reserved := 0
    reorderPoint := 0, reorderQty := 0, updatedAt := 0 }]
  movements := []

def lampStore : Store where
  id := 1
  slug := "lamps"
  name := "Lamps"
  status := .published
  currency := "USD"

def lampRows (order : Order) (payments : List Payment) : Db where
  tenantId := 1
  stores := [lampStore]
  variants := []
  stock := lampShelf
  carts := []
  orders := [order]
  payments := payments
  refunds := []
  returns := []
  connectAccount := none

def lampSession : CheckoutSessionObj where
  id := 1
  paymentIntent := some 1
  amountTotal := some 1000
  currency := some "usd"
  metadata := some { tenantId := some 1, orderId := some 1, cartToken := none }
  amountTax := none
  shippingDetails := none
  collectedShippingDetails := none
  customerDetails := none

def lampPayment : Payment where
  id := 1
  orderId := 1
  status := .succeeded
  amountCents := 1000
  currency := "USD"
  stripePaymentIntentId := some 1
  applicationFeeCents := 0
  failureReason := none
  paidAt := some 0

def bothLamps : ReturnLineInput := ⟨11, 2, by decide⟩

def granting (id : StripeRefundId) : StripeApi where
  configured := true
  refund := fun _ => some id

end Aicos.Settlement
