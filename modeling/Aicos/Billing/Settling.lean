import Aicos.Billing.Processor
import Aicos.Inventory.Sequential

namespace Aicos.Billing

open Aicos.Commerce Aicos.Data Aicos.Inventory

/-! When `onCheckoutCompleted` settles an order, read off the rows it starts from. -/

/-- The order a session may settle: its metadata names it and it is not paid yet. -/
def payable (session : CheckoutSessionObj) (db : Db) : Option Order :=
  match session.metadata with
  | none => none
  | some metadata =>
      if metadata.tenantId ≠ some db.tenantId then none
      else (metadata.orderId.bind db.findOrder).filter fun order =>
        order.status ≠ .paid ∧ order.financialStatus ≠ .paid

def intentTaken (session : CheckoutSessionObj) (order : Order) (db : Db) : Bool :=
  db.orderClash (·.stripePaymentIntentId) order (paidOrder session 0 order)

def conversionTaken (cartToken : Option CartToken) (orderId : OrderId) (db : Db) : Bool :=
  match cartToken with
  | none => false
  | some token =>
      db.carts.any (Db.openCartOf token) ∧ db.carts.any fun cart => cart.convertedOrderId = some orderId

/-- The order `onCheckoutCompleted` settles: a payable one that no unique column keeps from it. -/
def settles (session : CheckoutSessionObj) (db : Db) : Option Order :=
  (payable session db).filter fun order =>
    ¬ intentTaken session order db ∧ ¬ conversionTaken (session.metadata.bind (·.cartToken)) order.id db

variable {session : CheckoutSessionObj} {cartToken : Option CartToken} {id : PaymentId} {now : Instant}
  {order : Order} {db : Db}

theorem updateOrder_paid (found : db.findOrder order.id = some order) :
    db.updateOrder order.id (paidOrder session now) =
      if intentTaken session order db then .error (.constraint .orderPaymentIntentUnique)
      else .ok { db with orders := updateWhere (fun row => row.id = order.id) (paidOrder session now) db.orders } := by
  have same : db.orderClash (·.stripePaymentIntentId) order (paidOrder session now order) =
      intentTaken session order db := rfl
  have kept : db.orderClash (·.stripeCheckoutSessionId) order (paidOrder session now order) = false := by
    simp [Db.orderClash, paidOrder]
  simp only [Db.updateOrder, found, same, kept]
  cases intentTaken session order db <;> rfl

theorem settleCart_eq (orderId : OrderId) (db : Db) :
    settleCart cartToken orderId db =
      if conversionTaken cartToken orderId db then .error (.constraint .convertedOrderUnique)
      else .ok { db with carts := settledCarts cartToken orderId db.carts } := by
  cases cartToken with
  | none => rfl
  | some token =>
      simp only [settleCart, Db.convertCart, conversionTaken, decide_eq_true_eq]
      split <;> rfl

theorem settlePayment_orders (orders : List Order) :
    settlePayment session id now order { db with orders } =
      { db with orders, payments := (settlePayment session id now order db).payments } := by
  unfold settlePayment
  cases session.paymentIntent <;> rfl

def settledRows (session : CheckoutSessionObj) (cartToken : Option CartToken) (id : PaymentId) (now : Instant)
    (order : Order) (stock : Inventory) (db : Db) : Db :=
  { db with
    orders := updateWhere (fun row => row.id = order.id) (paidOrder session now) db.orders
    payments := (settlePayment session id now order db).payments
    stock
    carts := settledCarts cartToken order.id db.carts }

def confirmation (session : CheckoutSessionObj) (order : Order) (oversold : List Shortfall) : Confirmation where
  email := order.email <|> session.customerDetails.bind (·.email)
  number := order.number
  total := session.amountTotal.getD order.totalCents
  currency := order.currency
  oversold := oversold

/-- A settlement fails on a unique column or not at all. -/
theorem settle_eq {oversold : List Shortfall} {stock : Inventory} (found : db.findOrder order.id = some order)
    (ran : (decrementStock order.id now order.items).alone stockStore db.stock = .ok (oversold, stock)) :
    settle session cartToken id now order db =
      if intentTaken session order db then .error (.constraint .orderPaymentIntentUnique)
      else if conversionTaken cartToken order.id db then .error (.constraint .convertedOrderUnique)
      else .ok (some (confirmation session order oversold),
        settledRows session cartToken id now order stock db) := by
  unfold settle
  rw [updateOrder_paid found]
  cases clash : intentTaken session order db with
  | true => rfl
  | false =>
      have taken : (settlePayment session id now order { db with
            orders := updateWhere (fun row => row.id = order.id) (paidOrder session now) db.orders }).onStock
          (decrementStock order.id now order.items) =
          .ok (oversold, { db with
            orders := updateWhere (fun row => row.id = order.id) (paidOrder session now) db.orders
            payments := (settlePayment session id now order db).payments
            stock }) := by
        rw [settlePayment_orders]
        simp only [Db.onStock, ran]
      simp only [Bool.false_eq_true, if_false, ok_bind, taken, settleCart_eq]
      have same : conversionTaken cartToken order.id { db with
            orders := updateWhere (fun row => row.id = order.id) (paidOrder session now) db.orders
            payments := (settlePayment session id now order db).payments
            stock } = conversionTaken cartToken order.id db := by
        cases cartToken <;> rfl
      rw [same]
      cases conversionTaken cartToken order.id db <;> rfl

theorem payable_some (named : payable session db = some order) :
    (∃ metadata, session.metadata = some metadata ∧ metadata.tenantId = some db.tenantId ∧
      metadata.orderId = some order.id) ∧
      db.findOrder order.id = some order ∧ order.status ≠ .paid ∧ order.financialStatus ≠ .paid := by
  unfold payable at named
  cases carried : session.metadata with
  | none => simp [carried] at named
  | some metadata =>
      simp only [carried] at named
      split at named
      · cases named
      · rename_i ours
        obtain ⟨bound, unpaid⟩ := Option.filter_eq_some_iff.mp named
        obtain ⟨orderId, carries, found⟩ := Option.bind_eq_some_iff.mp bound
        have same := Db.findOrder_id found
        subst same
        exact ⟨⟨metadata, rfl, by simpa using ours, carries⟩, found, by simpa using unpaid⟩

theorem onCheckoutCompleted_of_not_payable (settled : payable session db = none) :
    onCheckoutCompleted session id now db = .ok (none, db) := by
  unfold payable at settled
  unfold onCheckoutCompleted
  cases carried : session.metadata with
  | none => rfl
  | some metadata =>
      simp only [carried] at settled
      cases tenant : metadata.tenantId with
      | none => simp only [tenant]; rfl
      | some tenantId =>
          cases named : metadata.orderId with
          | none => simp only [tenant, named]; rfl
          | some orderId =>
              by_cases ours : tenantId = db.tenantId
              · cases found : db.findOrder orderId with
                | none => simp [tenant, named, ours, found]; rfl
                | some order =>
                    have paid : order.status = .paid ∨ order.financialStatus = .paid := by
                      simp [tenant, ours, named, found] at settled
                      by_cases first : order.status = .paid
                      · exact .inl first
                      · exact .inr (settled first)
                    simp [tenant, named, ours, found, paid]; rfl
              · simp [tenant, named, ours]; rfl

theorem onCheckoutCompleted_of_payable (named : payable session db = some order) :
    onCheckoutCompleted session id now db =
      settle session (session.metadata.bind (·.cartToken)) id now order db := by
  obtain ⟨⟨metadata, carried, tenant, orderId⟩, found, unpaid, unsettled⟩ := payable_some named
  unfold onCheckoutCompleted
  simp [carried, tenant, orderId, found, unpaid, unsettled]

/-- What a session's completion does: it settles the order `settles` names, or nothing. -/
theorem onCheckoutCompleted_settles (id : PaymentId) (now : Instant) (keyed : ItemsKeyed db.stock)
    (named : settles session db = some order) :
    ∃ oversold stock, Served order.items oversold db.stock stock ∧
      onCheckoutCompleted session id now db = .ok (some (confirmation session order oversold),
        settledRows session (session.metadata.bind (·.cartToken)) id now order stock db) := by
  obtain ⟨payable, free⟩ := Option.filter_eq_some_iff.mp named
  obtain ⟨oversold, stock, ran, served⟩ := decrementStock_alone order.id now order.items db.stock keyed
  have free : intentTaken session order db = false ∧
      conversionTaken (session.metadata.bind (·.cartToken)) order.id db = false := by simpa using free
  refine ⟨oversold, stock, served, ?_⟩
  rw [onCheckoutCompleted_of_payable payable, settle_eq (payable_some payable).2.1 ran, free.1, free.2]
  rfl

theorem onCheckoutCompleted_of_not_settles (id : PaymentId) (now : Instant) (keyed : ItemsKeyed db.stock)
    (named : settles session db = none) :
    onCheckoutCompleted session id now db = .ok (none, db) ∨
      ∃ failure, onCheckoutCompleted session id now db = .error failure := by
  cases unpaid : payable session db with
  | none => exact .inl (onCheckoutCompleted_of_not_payable unpaid)
  | some order =>
      obtain ⟨oversold, stock, ran, _⟩ := decrementStock_alone order.id now order.items db.stock keyed
      rw [onCheckoutCompleted_of_payable unpaid, settle_eq (payable_some unpaid).2.1 ran]
      simp only [settles, unpaid, Option.filter_some] at named
      cases clash : intentTaken session order db with
      | true => exact .inr ⟨_, rfl⟩
      | false =>
          cases converted : conversionTaken (session.metadata.bind (·.cartToken)) order.id db with
          | true => exact .inr ⟨_, rfl⟩
          | false => simp [clash, converted] at named

end Aicos.Billing
