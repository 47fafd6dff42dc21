import Aicos.Commerce.Tables
import Aicos.Billing.Events
import Aicos.Billing.DecrementStock

namespace Aicos.Billing

open Aicos.Commerce Aicos.Data

/-! `BillingProcessor`: the consumer of verified Stripe events. -/

/-- What the order confirmation needs, with the warnings of `decrementStock`. -/
structure Confirmation where
  email : Option String
  number : Nat
  total : Int
  currency : String
  oversold : List Shortfall
deriving DecidableEq

def paidOrder (session : CheckoutSessionObj) (now : Instant) (order : Order) : Order :=
  let shippingSnapshot := toAddressSnapshot (session.shippingDetails <|> session.collectedShippingDetails)
  let billingSnapshot := toAddressSnapshot session.customerDetails
  let buyerEmail := session.customerDetails.bind (·.email)
  { order with
    status := .paid
    financialStatus := .paid
    placedAt := some now
    taxCents := session.amountTax.getD 0
    totalCents := session.amountTotal.getD order.totalCents
    stripePaymentIntentId := session.paymentIntent <|> order.stripePaymentIntentId
    shippingAddress := shippingSnapshot <|> order.shippingAddress
    billingAddress := if order.billingAddress = none then billingSnapshot else order.billingAddress
    email := if truthy buyerEmail ∧ ¬ truthy order.email then buyerEmail else order.email }

def capturedPayment (session : CheckoutSessionObj) (intent : PaymentIntentId) (id : PaymentId)
    (now : Instant) (order : Order) : Payment where
  id := id
  orderId := order.id
  status := .succeeded
  amountCents := session.amountTotal.getD order.totalCents
  currency := toUpperCase (session.currency.getD order.currency)
  stripePaymentIntentId := some intent
  applicationFeeCents := order.applicationFeeCents
  failureReason := none
  paidAt := some now

/-- The Payment of a settled order, when the session names its payment intent. -/
def settlePayment (session : CheckoutSessionObj) (id : PaymentId) (now : Instant) (order : Order)
    (db : Db) : Db :=
  match session.paymentIntent with
  | none => db
  | some intent =>
      -- a row left by a failed attempt keeps its currency and its fee
      db.upsertPayment intent (capturedPayment session intent id now order) fun payment =>
        { payment with
          status := .succeeded
          amountCents := session.amountTotal.getD order.totalCents
          paidAt := some now }

def settleCart (cartToken : Option CartToken) (orderId : OrderId) (db : Db) : Tx Db :=
  match cartToken with
  | none => pure db
  | some token => db.convertCart token orderId

/-- The transaction of `onCheckoutCompleted` once its order is known to be unpaid. -/
def settle (session : CheckoutSessionObj) (cartToken : Option CartToken) (id : PaymentId)
    (now : Instant) (order : Order) (db : Db) : Tx (Option Confirmation × Db) := do
  let db ← db.updateOrder order.id (paidOrder session now)
  let (oversold, db) ← (settlePayment session id now order db).onStock
    (decrementStock order.id now order.items)
  let db ← settleCart cartToken order.id db
  pure (some {
    email := order.email <|> session.customerDetails.bind (·.email)
    number := order.number
    total := session.amountTotal.getD order.totalCents
    currency := order.currency
    oversold }, db)

/-- Payment captured: the order becomes PAID, its Payment is written, stock
decremented and the cart converted. -/
def onCheckoutCompleted (session : CheckoutSessionObj) (id : PaymentId) (now : Instant) (db : Db) :
    Tx (Option Confirmation × Db) :=
  match session.metadata with
  | none => pure (none, db)
  | some metadata =>
      match metadata.tenantId, metadata.orderId with
      | some tenantId, some orderId =>
          if tenantId ≠ db.tenantId then pure (none, db)
          else
            match db.findOrder orderId with
            | none => pure (none, db)
            | some order =>
                -- nothing else keeps an order from being settled again
                if order.status = .paid ∨ order.financialStatus = .paid then pure (none, db)
                else settle session metadata.cartToken id now order db
      | _, _ => pure (none, db)

def failedPayment (intent : PaymentIntentObj) (id : PaymentId) (order : Order) : Payment where
  id := id
  orderId := order.id
  status := .failed
  amountCents := order.totalCents
  currency := order.currency
  stripePaymentIntentId := some intent.id
  applicationFeeCents := 0
  failureReason := some (intent.lastPaymentErrorMessage.getD "Payment failed")
  paidAt := none

/-- The order's payment becomes FAILED; the order stays open for a retry. -/
def onPaymentFailed (intent : PaymentIntentObj) (id : PaymentId) (db : Db) : Db :=
  match intent.metadata with
  | none => db
  | some metadata =>
      match metadata.tenantId, metadata.orderId with
      | some tenantId, some orderId =>
          if tenantId ≠ db.tenantId then db
          else
            match db.findOrder orderId with
            | none => db
            | some order => db.upsertPayment intent.id (failedPayment intent id order) fun payment =>
                { payment with
                  status := .failed
                  failureReason := some (intent.lastPaymentErrorMessage.getD "Payment failed") }
      | _, _ => db

def reconciledRefund (payment : Payment) (refund : StripeRefundObj) : Refund where
  orderId := payment.orderId
  paymentId := payment.id
  amountCents := refund.amount
  currency := payment.currency
  reason := refund.reason
  reverseTransfer := true
  stripeRefundId := some refund.id

/-- The loop of `onChargeRefunded`: the refunds not recorded yet are created. -/
def reconcile (payment : Payment) : List StripeRefundObj → Db → Tx Db
  | [], db => pure db
  | refund :: refunds, db =>
      match db.findRefund refund.id with
      | some _ => reconcile payment refunds db
      | none => do
          let db ← db.createRefund (reconciledRefund payment refund)
          reconcile payment refunds db

def totalRefunded (refunds : List StripeRefundObj) : Int :=
  (refunds.map (·.amount)).sum

/-- What a refund does to its order; also in `OrdersService.refund`. -/
def refundedOrder (fully : Bool) (order : Order) : Order :=
  { order with
    financialStatus := if fully then .refunded else .partiallyRefunded
    status := if fully then .refunded else order.status }

def refundedPayment (payment : Payment) : Payment :=
  { payment with status := .refunded }

def onChargeRefunded (charge : ChargeObj) (db : Db) : Tx Db :=
  match charge.paymentIntent with
  | none => pure db
  | some intent =>
      match db.findPaymentByIntent intent with
      -- acknowledged, although the Payment may only be on its way
      | none => pure db
      | some payment => do
          let refunds := charge.refunds.getD []
          let db ← reconcile payment refunds db
          let fully := decide (totalRefunded refunds ≥ payment.amountCents)
          let db ← db.updateOrder payment.orderId (refundedOrder fully)
          if fully then db.updatePayment payment.id refundedPayment else pure db

def onAccountUpdated (account : AccountObj) (db : Db) : Db :=
  let mine : Bool := match account.metadata.bind (·.tenantId) with
    | some tenantId => decide (tenantId = db.tenantId)
    | none => true
  match db.connectAccount with
  | none => db
  | some row =>
      if mine ∧ row.stripeAccountId = account.id then
        { db with connectAccount := some {
            stripeAccountId := row.stripeAccountId
            chargesEnabled := account.chargesEnabled
            payoutsEnabled := account.payoutsEnabled
            detailsSubmitted := account.detailsSubmitted
            currentlyDue := account.currentlyDue.getD []
            pastDue := account.pastDue.getD []
            disabledReason := account.disabledReason } }
      else db

/-- The rows `reconcile` adds to the recorded refunds. -/
def unrecorded (payment : Payment) : List StripeRefundObj → List Refund → List Refund
  | [], _ => []
  | refund :: refunds, recorded =>
      if recorded.any fun row => row.stripeRefundId = some refund.id then
        unrecorded payment refunds recorded
      else reconciledRefund payment refund ::
        unrecorded payment refunds (recorded ++ [reconciledRefund payment refund])

theorem reconcile_eq (payment : Payment) (refunds : List StripeRefundObj) (db : Db) :
    reconcile payment refunds db =
      .ok { db with refunds := db.refunds ++ unrecorded payment refunds db.refunds } := by
  induction refunds generalizing db with
  | nil => simp [reconcile, unrecorded, pure, Except.pure]
  | cons refund refunds ih =>
      cases found : db.findRefund refund.id with
      | some row =>
          have known : db.refunds.any (fun row => row.stripeRefundId = some refund.id) = true := by
            have same := List.find?_some found
            exact List.any_eq_true.mpr ⟨row, List.mem_of_find?_eq_some found, same⟩
          simp only [reconcile, found, unrecorded, if_pos known, ih]
      | none =>
          have absent : ∀ row ∈ db.refunds, row.stripeRefundId ≠ some refund.id := by
            simpa using List.find?_eq_none.mp found
          have known : ¬ (db.refunds.any fun row => row.stripeRefundId = some refund.id) = true := by
            simpa using absent
          have created : db.createRefund (reconciledRefund payment refund) =
              .ok { db with refunds := db.refunds ++ [reconciledRefund payment refund] } :=
            Db.createRefund_eq _ absent
          simp only [reconcile, found, created, ok_bind, ih, unrecorded, if_neg known, List.append_assoc,
            List.singleton_append]

theorem unrecorded_mem {payment : Payment} {refunds : List StripeRefundObj} {recorded : List Refund} {row : Refund}
    (member : row ∈ unrecorded payment refunds recorded) :
    ∃ refund ∈ refunds, row = reconciledRefund payment refund := by
  induction refunds generalizing recorded with
  | nil => simp [unrecorded] at member
  | cons refund refunds ih =>
      rw [unrecorded] at member
      split at member
      · obtain ⟨listed, present, same⟩ := ih member
        exact ⟨listed, List.mem_cons_of_mem _ present, same⟩
      · rcases List.mem_cons.mp member with rfl | later
        · exact ⟨refund, by simp, rfl⟩
        · obtain ⟨listed, present, same⟩ := ih later
          exact ⟨listed, List.mem_cons_of_mem _ present, same⟩

theorem unrecorded_distinct {payment : Payment} {refunds : List StripeRefundObj} {recorded : List Refund}
    (distinct : (recorded.filterMap (·.stripeRefundId)).Nodup) :
    ((recorded ++ unrecorded payment refunds recorded).filterMap (·.stripeRefundId)).Nodup := by
  induction refunds generalizing recorded with
  | nil => simpa [unrecorded] using distinct
  | cons refund refunds ih =>
      rw [unrecorded]
      split
      · exact ih distinct
      · rename_i fresh
        have next : ((recorded ++ [reconciledRefund payment refund]).filterMap (·.stripeRefundId)).Nodup := by
          have absent : refund.id ∉ recorded.filterMap (·.stripeRefundId) := by
            simpa using fresh
          rw [List.filterMap_append]
          exact distinct.append (List.nodup_singleton _) (List.disjoint_singleton.mpr absent)
        have rest := ih next
        rwa [List.append_assoc, List.singleton_append] at rest

/-- What a `charge.refunded` event does to the rows, where it does anything. -/
theorem onChargeRefunded_ok {charge : ChargeObj} {db after : Db}
    (handled : onChargeRefunded charge db = .ok after) :
    (after = db ∧ ∀ intent, charge.paymentIntent = some intent → db.findPaymentByIntent intent = none) ∨
      ∃ intent payment order fully, charge.paymentIntent = some intent ∧
        db.findPaymentByIntent intent = some payment ∧ db.findOrder payment.orderId = some order ∧
        fully = decide (totalRefunded (charge.refunds.getD []) ≥ payment.amountCents) ∧
        after = { db with
          refunds := db.refunds ++ unrecorded payment (charge.refunds.getD []) db.refunds
          orders := updateWhere (fun row => row.id = payment.orderId) (refundedOrder fully) db.orders
          payments := if fully then updateWhere (fun row => row.id = payment.id) refundedPayment db.payments
            else db.payments } := by
  unfold onChargeRefunded at handled
  cases carried : charge.paymentIntent with
  | none =>
      simp only [carried] at handled
      cases handled
      exact .inl ⟨rfl, by simp⟩
  | some intent =>
      cases found : db.findPaymentByIntent intent with
      | none =>
          simp only [carried, found] at handled
          cases handled
          refine .inl ⟨rfl, ?_⟩
          intro other same
          cases same
          exact found
      | some payment =>
          simp only [carried, found, reconcile_eq, ok_bind] at handled
          obtain ⟨reconciled, updated, last⟩ := bind_eq_ok.mp handled
          obtain ⟨⟨order, there⟩, rfl⟩ := Db.updateOrder_ok updated
          refine .inr ⟨intent, payment, order, _, rfl, found, there, rfl, ?_⟩
          by_cases fully : totalRefunded (charge.refunds.getD []) ≥ payment.amountCents
          · simp only [fully, decide_true, if_true] at last ⊢
            exact (Db.updatePayment_ok last).2
          · simp only [fully, decide_false] at last ⊢
            cases last
            rfl

theorem onChargeRefunded_eq {charge : ChargeObj} {intent : PaymentIntentId} {db : Db} {payment : Payment}
    {order : Order} (carried : charge.paymentIntent = some intent)
    (found : db.findPaymentByIntent intent = some payment) (there : db.findOrder payment.orderId = some order) :
    onChargeRefunded charge db = .ok { db with
      refunds := db.refunds ++ unrecorded payment (charge.refunds.getD []) db.refunds
      orders := updateWhere (fun row => row.id = payment.orderId)
        (refundedOrder (totalRefunded (charge.refunds.getD []) ≥ payment.amountCents)) db.orders
      payments := if totalRefunded (charge.refunds.getD []) ≥ payment.amountCents then
        updateWhere (fun row => row.id = payment.id) refundedPayment db.payments else db.payments } := by
  obtain ⟨row, present⟩ := Db.findPayment_of_mem (List.mem_of_find?_eq_some found)
  have updated : Db.updateOrder payment.orderId
      (refundedOrder (totalRefunded (charge.refunds.getD []) ≥ payment.amountCents))
      { db with refunds := db.refunds ++ unrecorded payment (charge.refunds.getD []) db.refunds } = .ok _ :=
    Db.updateOrder_eq _ there rfl rfl
  unfold onChargeRefunded
  simp only [carried, found, reconcile_eq, ok_bind, updated]
  by_cases full : totalRefunded (charge.refunds.getD []) ≥ payment.amountCents
  · simp only [full, decide_true, if_true]
    exact Db.updatePayment_eq _ present
  · simp only [full, decide_false, if_false]
    rfl

theorem settlePayment_eq (session : CheckoutSessionObj) (id : PaymentId) (now : Instant) (order : Order)
    (db : Db) :
    settlePayment session id now order db =
      { db with payments := (settlePayment session id now order db).payments } := by
  unfold settlePayment
  cases session.paymentIntent <;> rfl

def settledCarts (cartToken : Option CartToken) (orderId : OrderId) (carts : List Cart) : List Cart :=
  match cartToken with
  | none => carts
  | some token => updateWhere (Db.openCartOf token)
      (fun cart => { cart with convertedOrderId := some orderId }) carts

theorem settleCart_ok {cartToken : Option CartToken} {orderId : OrderId} {db after : Db}
    (converted : settleCart cartToken orderId db = .ok after) :
    after = { db with carts := settledCarts cartToken orderId db.carts } := by
  cases cartToken with
  | none => cases converted; rfl
  | some token => exact Db.convertCart_ok converted

theorem settle_ok {session : CheckoutSessionObj} {cartToken : Option CartToken} {id : PaymentId}
    {now : Instant} {order : Order} {db after : Db} {confirmation : Option Confirmation}
    (settled : settle session cartToken id now order db = .ok (confirmation, after)) :
    ∃ oversold stock,
      (decrementStock order.id now order.items).alone Inventory.stockStore db.stock = .ok (oversold, stock) ∧
      confirmation = some {
        email := order.email <|> session.customerDetails.bind (·.email)
        number := order.number
        total := session.amountTotal.getD order.totalCents
        currency := order.currency
        oversold } ∧
      after = { db with
        orders := updateWhere (fun row => row.id = order.id) (paidOrder session now) db.orders
        payments := (settlePayment session id now order db).payments
        stock
        carts := settledCarts cartToken order.id db.carts } := by
  unfold settle at settled
  obtain ⟨first, updated, settled⟩ := bind_eq_ok.mp settled
  obtain ⟨_, rfl⟩ := Db.updateOrder_ok updated
  obtain ⟨⟨oversold, second⟩, decremented, settled⟩ := bind_eq_ok.mp settled
  obtain ⟨stock, alone, rfl⟩ := Db.onStock_ok decremented
  obtain ⟨third, converted, settled⟩ := bind_eq_ok.mp settled
  rw [settleCart_ok converted] at settled
  rw [settlePayment_eq] at alone settled
  refine ⟨oversold, stock, alone, ?_⟩
  cases settled
  refine ⟨rfl, ?_⟩
  unfold settlePayment
  cases session.paymentIntent <;> rfl

/-- When `onCheckoutCompleted` settles an order, and what it does where it does not. -/
theorem onCheckoutCompleted_ok {session : CheckoutSessionObj} {id : PaymentId} {now : Instant}
    {db after : Db} {confirmation : Option Confirmation}
    (handled : onCheckoutCompleted session id now db = .ok (confirmation, after)) :
    (confirmation = none ∧ after = db) ∨
      ∃ metadata order, session.metadata = some metadata ∧ metadata.tenantId = some db.tenantId ∧
        metadata.orderId = some order.id ∧ db.findOrder order.id = some order ∧
        order.status ≠ .paid ∧ order.financialStatus ≠ .paid ∧
        settle session metadata.cartToken id now order db = .ok (confirmation, after) := by
  unfold onCheckoutCompleted at handled
  cases carried : session.metadata with
  | none =>
      simp only [carried] at handled
      cases handled
      exact .inl ⟨rfl, rfl⟩
  | some metadata =>
      simp only [carried] at handled
      split at handled
      · rename_i tenantId orderId tenant named
        split at handled
        · cases handled
          exact .inl ⟨rfl, rfl⟩
        · rename_i ours
          cases found : db.findOrder orderId with
          | none =>
              simp only [found] at handled
              cases handled
              exact .inl ⟨rfl, rfl⟩
          | some order =>
              simp only [found] at handled
              split at handled
              · cases handled
                exact .inl ⟨rfl, rfl⟩
              · rename_i unpaid
                have same := Db.findOrder_id found
                have mine : tenantId = db.tenantId := by simpa using ours
                refine .inr ⟨metadata, order, rfl, mine ▸ tenant, same ▸ named, same ▸ found, ?_⟩
                exact ⟨fun paid => unpaid (.inl paid), fun paid => unpaid (.inr paid), handled⟩
      · cases handled
        exact .inl ⟨rfl, rfl⟩

theorem onCheckoutCompleted_paid {session : CheckoutSessionObj} {metadata : Metadata} {orderId : OrderId}
    {id : PaymentId} {now : Instant} {db : Db} {order : Order}
    (carried : session.metadata = some metadata) (named : metadata.orderId = some orderId)
    (found : db.findOrder orderId = some order)
    (paid : order.status = .paid ∨ order.financialStatus = .paid) :
    onCheckoutCompleted session id now db = .ok (none, db) := by
  unfold onCheckoutCompleted
  simp only [carried, named]
  cases metadata.tenantId with
  | none => rfl
  | some tenantId =>
      simp only [found, if_pos paid]
      split <;> rfl

theorem onPaymentFailed_eq (intent : PaymentIntentObj) (id : PaymentId) (db : Db) :
    onPaymentFailed intent id db = { db with payments := (onPaymentFailed intent id db).payments } := by
  unfold onPaymentFailed
  split
  · rfl
  · split
    · split
      · rfl
      · split <;> rfl
    · rfl

theorem onAccountUpdated_eq (account : AccountObj) (db : Db) :
    onAccountUpdated account db =
      { db with connectAccount := (onAccountUpdated account db).connectAccount } := by
  unfold onAccountUpdated
  cases account.metadata.bind (·.tenantId) <;> cases found : db.connectAccount <;> simp only [] <;>
    split <;> rfl

/-- A `stripe.event` job; `paymentId` is the cuid a Payment row would get. -/
structure StripeJob where
  event : StripeEvent
  paymentId : PaymentId
  now : Instant

def handle (job : StripeJob) (db : Db) : Tx Db :=
  match job.event.object with
  | .checkoutSessionCompleted session => do
      let (_, db) ← onCheckoutCompleted session job.paymentId job.now db
      pure db
  | .paymentFailed intent => pure (onPaymentFailed intent job.paymentId db)
  | .chargeRefunded charge => onChargeRefunded charge db
  | .accountUpdated account => pure (onAccountUpdated account db)
  | .unhandled => pure db

/-- The worker's rows and the done-markers it keeps in Redis. -/
structure Worker where
  db : Db
  done : List EventId

/-- `process`; with `crash` the worker stops between the commit and the marker. -/
def process (job : StripeJob) (crash : Bool) (worker : Worker) : Worker :=
  if job.event.id ∈ worker.done then worker
  else
    match handle job worker.db with
    -- the job fails and is tried again later
    | .error _ => worker
    | .ok db => { db, done := if crash then worker.done else job.event.id :: worker.done }

end Aicos.Billing
