import Aicos.Commerce.Schema
import Aicos.Data.Rows
import Aicos.Inventory.Statements
import Mathlib.Data.List.Nodup

namespace Aicos.Commerce

open Aicos.Data Aicos.Inventory Aicos.Transaction

/-! Statements on a tenant's rows.

A transaction body threads the rows through its statements and is `Except` in
why it rolls back; `commit` is what `withTenant` leaves behind.
-/

/-- Why a transaction or a request failed; `stripe` is an API call that threw. -/
inductive Failure where
  | http (error : HttpError)
  | constraint (violated : Constraint)
  | stock (abort : Abort StockWrite HttpError)
  | stripe
deriving DecidableEq

abbrev Tx (α : Type) := Except Failure α

theorem bind_eq_ok {ε α β : Type} {first : Except ε α} {rest : α → Except ε β} {result : β} :
    (first >>= rest) = .ok result ↔ ∃ value, first = .ok value ∧ rest value = .ok result := by
  cases first with
  | error reason => simp [bind, Except.bind]
  | ok value =>
      constructor
      · exact fun returned => ⟨value, rfl, returned⟩
      · intro ⟨found, same, returned⟩
        cases same
        exact returned

@[simp] theorem ok_bind {ε α β : Type} (value : α) (rest : α → Except ε β) :
    ((.ok value : Except ε α) >>= rest) = rest value := rfl

/-- The rows after the transaction: those it returns, or the old ones after a rollback. -/
def commit (body : Db → Tx Db) (db : Db) : Db :=
  match body db with
  | .ok after => after
  | .error _ => db

namespace Db

def findOrder (id : OrderId) (db : Db) : Option Order :=
  db.orders.find? fun order => order.id = id

def findPayment (id : PaymentId) (db : Db) : Option Payment :=
  db.payments.find? fun payment => payment.id = id

def findPaymentByIntent (intent : PaymentIntentId) (db : Db) : Option Payment :=
  db.payments.find? fun payment => payment.stripePaymentIntentId = some intent

def findRefund (id : StripeRefundId) (db : Db) : Option Refund :=
  db.refunds.find? fun refund => refund.stripeRefundId = some id

def findReturn (id : ReturnId) (db : Db) : Option Return :=
  db.returns.find? fun ret => ret.id = id

def findCart (token : CartToken) (db : Db) : Option Cart :=
  db.carts.find? fun cart => cart.token = token

def findVariant (id : VariantId) (db : Db) : Option ProductVariant :=
  db.variants.find? fun variant => variant.id = id

def publishedStore (slug : String) (db : Db) : Option Store :=
  db.stores.find? fun store => store.slug = slug ∧ store.status = .published

/-- A unique column gets a value that another order has. -/
def orderClash (column : Order → Option Nat) (before after : Order) (db : Db) : Bool :=
  column after ≠ column before ∧ column after ≠ none ∧
    db.orders.any fun other => other.id ≠ before.id ∧ column other = column after

/-- `order.update({ where: { id } })`. -/
def updateOrder (id : OrderId) (change : Order → Order) (db : Db) : Tx Db :=
  match db.findOrder id with
  | none => throw (.constraint .recordNotFound)
  | some order =>
      if db.orderClash (·.stripePaymentIntentId) order (change order) then
        throw (.constraint .orderPaymentIntentUnique)
      else if db.orderClash (·.stripeCheckoutSessionId) order (change order) then
        throw (.constraint .orderSessionUnique)
      else pure { db with orders := updateWhere (fun row => row.id = id) change db.orders }

def createOrder (order : Order) (db : Db) : Tx Db :=
  if db.orders.any fun other => other.id = order.id then throw (.constraint .primaryKey)
  else if db.orders.any fun other => other.number = order.number then
    throw (.constraint .orderNumberUnique)
  else pure { db with orders := db.orders ++ [order] }

/-- `order.delete`, with the rows that cascade. -/
def deleteOrder (id : OrderId) (db : Db) : Tx Db :=
  match db.findOrder id with
  | none => throw (.constraint .recordNotFound)
  | some _ => pure { db with
      orders := db.orders.filter fun order => order.id ≠ id
      payments := db.payments.filter fun payment => payment.orderId ≠ id
      refunds := db.refunds.filter fun refund => refund.orderId ≠ id
      returns := db.returns.filter fun ret => ret.orderId ≠ id }

def updatePayment (id : PaymentId) (change : Payment → Payment) (db : Db) : Tx Db :=
  match db.findPayment id with
  | none => throw (.constraint .recordNotFound)
  | some _ => pure { db with payments := updateWhere (fun row => row.id = id) change db.payments }

/-- `payment.upsert({ where: { stripePaymentIntentId } })`. -/
def upsertPayment (intent : PaymentIntentId) (create : Payment) (change : Payment → Payment)
    (db : Db) : Db :=
  { db with
    payments := match db.findPaymentByIntent intent with
      | none => db.payments ++ [create]
      | some _ => updateWhere (fun row => row.stripePaymentIntentId = some intent) change db.payments }

def createRefund (refund : Refund) (db : Db) : Tx Db :=
  if refund.stripeRefundId ≠ none ∧
      db.refunds.any (fun other => other.stripeRefundId = refund.stripeRefundId) then
    throw (.constraint .stripeRefundUnique)
  else pure { db with refunds := db.refunds ++ [refund] }

def createReturn (ret : Return) (db : Db) : Tx Db :=
  if db.returns.any fun other => other.id = ret.id then throw (.constraint .primaryKey)
  else pure { db with returns := db.returns ++ [ret] }

def updateReturn (id : ReturnId) (change : Return → Return) (db : Db) : Tx Db :=
  match db.findReturn id with
  | none => throw (.constraint .recordNotFound)
  | some _ => pure { db with returns := updateWhere (fun row => row.id = id) change db.returns }

def createCart (cart : Cart) (db : Db) : Tx Db :=
  if db.carts.any fun other => other.token = cart.token then throw (.constraint .cartTokenUnique)
  else pure { db with carts := db.carts ++ [cart] }

def updateCart (token : CartToken) (change : Cart → Cart) (db : Db) : Db :=
  { db with carts := updateWhere (fun cart => cart.token = token) change db.carts }

def openCartOf (token : CartToken) (cart : Cart) : Bool :=
  cart.token = token ∧ cart.convertedOrderId = none

/-- `cart.updateMany({ where: { token, convertedOrderId: null } })`, setting the order. -/
def convertCart (token : CartToken) (orderId : OrderId) (db : Db) : Tx Db :=
  if db.carts.any (openCartOf token) ∧ db.carts.any (fun cart => cart.convertedOrderId = some orderId) then
    throw (.constraint .convertedOrderUnique)
  else pure { db with
    carts := updateWhere (openCartOf token) (fun cart => { cart with convertedOrderId := some orderId })
      db.carts }

def onStock {α : Type} (program : StockProgram α) (db : Db) : Tx (α × Db) :=
  match program.alone stockStore db.stock with
  | .ok (value, stock) => .ok (value, { db with stock })
  | .error abort => .error (.stock abort)

theorem updateOrder_eq {id : OrderId} {db : Db} {order : Order} (change : Order → Order)
    (found : db.findOrder id = some order)
    (intent : (change order).stripePaymentIntentId = order.stripePaymentIntentId)
    (session : (change order).stripeCheckoutSessionId = order.stripeCheckoutSessionId) :
    db.updateOrder id change =
      .ok { db with orders := updateWhere (fun row => row.id = id) change db.orders } := by
  simp [updateOrder, found, orderClash, intent, session]
  rfl

theorem updateOrder_ok {id : OrderId} {change : Order → Order} {db after : Db}
    (updated : db.updateOrder id change = .ok after) :
    (∃ order, db.findOrder id = some order) ∧
      after = { db with orders := updateWhere (fun row => row.id = id) change db.orders } := by
  unfold updateOrder at updated
  cases found : db.findOrder id with
  | none => simp only [found] at updated; cases updated
  | some order =>
      simp only [found] at updated
      split at updated
      · cases updated
      · split at updated
        · cases updated
        · cases updated
          exact ⟨⟨order, rfl⟩, rfl⟩

theorem createOrder_ok_iff {order : Order} {db after : Db} :
    db.createOrder order = .ok after ↔
      (∀ other ∈ db.orders, other.id ≠ order.id) ∧ (∀ other ∈ db.orders, other.number ≠ order.number) ∧
        { db with orders := db.orders ++ [order] } = after := by
  unfold createOrder
  by_cases taken : db.orders.any fun other => other.id = order.id
  · rw [if_pos taken]
    refine ⟨(fun refused => by cases refused), fun free => ?_⟩
    obtain ⟨other, member, same⟩ := List.any_eq_true.mp taken
    exact absurd (of_decide_eq_true same) (free.1 other member)
  · rw [if_neg taken]
    have ids : ∀ other ∈ db.orders, other.id ≠ order.id := by simpa using taken
    by_cases used : db.orders.any fun other => other.number = order.number
    · rw [if_pos used]
      refine ⟨(fun refused => by cases refused), fun free => ?_⟩
      obtain ⟨other, member, same⟩ := List.any_eq_true.mp used
      exact absurd (of_decide_eq_true same) (free.2.1 other member)
    · rw [if_neg used]
      have numbers : ∀ other ∈ db.orders, other.number ≠ order.number := by simpa using used
      rw [and_iff_right ids, and_iff_right numbers]
      exact ⟨Except.ok.inj, congrArg Except.ok⟩

theorem deleteOrder_ok {id : OrderId} {db after : Db} (deleted : db.deleteOrder id = .ok after) :
    (∃ order, db.findOrder id = some order) ∧ after = { db with
      orders := db.orders.filter fun order => order.id ≠ id
      payments := db.payments.filter fun payment => payment.orderId ≠ id
      refunds := db.refunds.filter fun refund => refund.orderId ≠ id
      returns := db.returns.filter fun ret => ret.orderId ≠ id } := by
  unfold deleteOrder at deleted
  cases found : db.findOrder id with
  | none => simp only [found] at deleted; cases deleted
  | some order =>
      simp only [found] at deleted
      cases deleted
      exact ⟨⟨order, rfl⟩, rfl⟩

theorem updatePayment_ok {id : PaymentId} {change : Payment → Payment} {db after : Db}
    (updated : db.updatePayment id change = .ok after) :
    (∃ payment, db.findPayment id = some payment) ∧
      after = { db with payments := updateWhere (fun row => row.id = id) change db.payments } := by
  unfold updatePayment at updated
  cases found : db.findPayment id with
  | none => simp only [found] at updated; cases updated
  | some payment =>
      simp only [found] at updated
      cases updated
      exact ⟨⟨payment, rfl⟩, rfl⟩

theorem updatePayment_eq {id : PaymentId} {db : Db} {payment : Payment} (change : Payment → Payment)
    (found : db.findPayment id = some payment) :
    db.updatePayment id change =
      .ok { db with payments := updateWhere (fun row => row.id = id) change db.payments } := by
  simp only [updatePayment, found]
  rfl

theorem updateReturn_ok {id : ReturnId} {change : Return → Return} {db after : Db}
    (updated : db.updateReturn id change = .ok after) :
    (∃ ret, db.findReturn id = some ret) ∧
      after = { db with returns := updateWhere (fun row => row.id = id) change db.returns } := by
  unfold updateReturn at updated
  cases found : db.findReturn id with
  | none => simp only [found] at updated; cases updated
  | some ret =>
      simp only [found] at updated
      cases updated
      exact ⟨⟨ret, rfl⟩, rfl⟩

theorem createRefund_ok {refund : Refund} {db after : Db} (created : db.createRefund refund = .ok after) :
    after = { db with refunds := db.refunds ++ [refund] } := by
  unfold createRefund at created
  split at created
  · cases created
  · cases created
    rfl

theorem createRefund_eq {db : Db} (refund : Refund)
    (fresh : ∀ other ∈ db.refunds, other.stripeRefundId ≠ refund.stripeRefundId) :
    db.createRefund refund = .ok { db with refunds := db.refunds ++ [refund] } := by
  have absent : ¬ (db.refunds.any fun other => other.stripeRefundId = refund.stripeRefundId) = true := by
    simpa using fresh
  rw [createRefund, if_neg fun clash => absent clash.2]
  rfl

theorem createCart_ok {cart : Cart} {db after : Db} (created : db.createCart cart = .ok after) :
    (∀ other ∈ db.carts, other.token ≠ cart.token) ∧ after = { db with carts := db.carts ++ [cart] } := by
  unfold createCart at created
  split at created
  · cases created
  · rename_i fresh
    cases created
    exact ⟨by simpa using fresh, rfl⟩

theorem convertCart_ok {token : CartToken} {orderId : OrderId} {db after : Db}
    (converted : db.convertCart token orderId = .ok after) :
    after = { db with
      carts := updateWhere (openCartOf token) (fun cart => { cart with convertedOrderId := some orderId })
        db.carts } := by
  unfold convertCart at converted
  split at converted
  · cases converted
  · cases converted
    rfl

theorem createReturn_ok {ret : Return} {db after : Db} (created : db.createReturn ret = .ok after) :
    (∀ other ∈ db.returns, other.id ≠ ret.id) ∧ after = { db with returns := db.returns ++ [ret] } := by
  unfold createReturn at created
  split at created
  · cases created
  · rename_i fresh
    cases created
    exact ⟨by simpa using fresh, rfl⟩

theorem findOrder_update (db : Db) (id other : OrderId) (change : Order → Order)
    (keyed : ∀ order, (change order).id = order.id) :
    ({ db with orders := updateWhere (fun row => row.id = id) change db.orders } : Db).findOrder other =
      (db.findOrder other).map fun order => if order.id = id then change order else order := by
  rw [findOrder, find?_updateWhere_key keyed]
  simp only [findOrder, decide_eq_true_eq]

theorem findPayment_update (db : Db) (id other : PaymentId) (change : Payment → Payment)
    (keyed : ∀ payment, (change payment).id = payment.id) :
    ({ db with payments := updateWhere (fun row => row.id = id) change db.payments } : Db).findPayment other =
      (db.findPayment other).map fun payment => if payment.id = id then change payment else payment := by
  rw [findPayment, find?_updateWhere_key keyed]
  simp only [findPayment, decide_eq_true_eq]

theorem findCart_update (db : Db) (selected : Cart → Bool) (change : Cart → Cart) (token : CartToken)
    (keyed : ∀ cart, (change cart).token = cart.token) :
    ({ db with carts := updateWhere selected change db.carts } : Db).findCart token =
      (db.findCart token).map fun cart => if selected cart then change cart else cart :=
  find?_updateWhere_key keyed

theorem findReturn_update (db : Db) (id other : ReturnId) (change : Return → Return)
    (keyed : ∀ ret, (change ret).id = ret.id) :
    ({ db with returns := updateWhere (fun row => row.id = id) change db.returns } : Db).findReturn other =
      (db.findReturn other).map fun ret => if ret.id = id then change ret else ret := by
  rw [findReturn, find?_updateWhere_key keyed]
  simp only [findReturn, decide_eq_true_eq]

theorem findOrder_id {id : OrderId} {db : Db} {order : Order} (found : db.findOrder id = some order) :
    order.id = id := by
  simpa using List.find?_some found

theorem findPayment_id {id : PaymentId} {db : Db} {payment : Payment}
    (found : db.findPayment id = some payment) : payment.id = id := by
  simpa using List.find?_some found

theorem findPayment_mem {payment : Payment} {db : Db} (keyed : (db.payments.map (·.id)).Nodup)
    (member : payment ∈ db.payments) : db.findPayment payment.id = some payment :=
  find?_of_key keyed member

theorem findPayment_of_mem {payment : Payment} {db : Db} (member : payment ∈ db.payments) :
    ∃ row, db.findPayment payment.id = some row := by
  cases found : db.findPayment payment.id with
  | some row => exact ⟨row, rfl⟩
  | none =>
      have absent := List.find?_eq_none.mp found payment member
      simp at absent

theorem findReturn_id {id : ReturnId} {db : Db} {ret : Return} (found : db.findReturn id = some ret) :
    ret.id = id := by
  simpa using List.find?_some found

theorem onStock_ok {α : Type} {program : StockProgram α} {db after : Db} {value : α}
    (returned : db.onStock program = .ok (value, after)) :
    ∃ stock, program.alone stockStore db.stock = .ok (value, stock) ∧ after = { db with stock } := by
  unfold onStock at returned
  split at returned
  · rename_i result stock ran
    cases returned
    exact ⟨stock, ran, rfl⟩
  · cases returned

end Db

end Aicos.Commerce
