import Aicos.Properties.PlacedOrders
import Aicos.Properties.ReturnQuantities

namespace Aicos.Properties

open Aicos.Billing Aicos.Commerce Aicos.Data Aicos.Orders Aicos.Returns Aicos.Settlement Aicos.Storefront
  Aicos.Transition

/-! What an order has been refunded once all of its units have come back.  Each return is
refunded at the prices of its lines, which leave the tax of the session out. -/

def refundsOn (orderId : OrderId) (db : Db) : Int :=
  totalWhere (fun refund => refund.orderId = orderId) (·.amountCents) db.refunds

/-- A return of the order that has been refunded. -/
def refundedFrom (orderId : OrderId) (ret : Return) : Bool :=
  ret.orderId = orderId ∧ ret.status = .refunded

def returnedUnits (orderId : OrderId) (id : OrderItemId) (db : Db) : Int :=
  totalWhere (refundedFrom orderId) (fun ret => unitsOf id ret.items) db.returns

def returnedMoney (orderId : OrderId) (db : Db) : Int :=
  totalWhere (refundedFrom orderId) (fun ret => refundAmount ret.items) db.returns

/-- The requests of the portal and of the returns desk. -/
def HandlesReturns : Request → Prop
  | .requestReturn _ _ _ _ | .approve _ | .reject _ | .refundReturn _ _ _ => True
  | _ => False

/-- An order as its checkout has left it, before the delivery of its payment. -/
structure PaymentDue (order : Order) (intent : PaymentIntentId) (db : Db) : Prop where
  orders : (db.orders.map (·.id)).Nodup
  returns : ReturnsKeyed db
  items : (order.items.map (·.id)).Nodup
  found : db.findOrder order.id = some order
  unreturned : ∀ ret ∈ db.returns, ret.orderId ≠ order.id
  unrefunded : ∀ refund ∈ db.refunds, refund.orderId ≠ order.id
  uncaptured : ∀ payment ∈ db.payments, payment.orderId = order.id → payment.status ≠ .succeeded
  own : ∀ payment ∈ db.payments, payment.stripePaymentIntentId = some intent → payment.orderId = order.id

/-- The refunds of a paid order are those of its refunded returns. -/
structure Repaid (order : Order) (payment : Payment) (intent : PaymentIntentId) (db : Db) : Prop where
  orders : ∀ other ∈ db.orders, other.id = order.id → other.items = order.items
  captured : captured (db.payments.filter fun payment => payment.orderId = order.id) = some (payment, intent)
  lines : ∀ ret ∈ db.returns, ret.orderId = order.id → ∀ line ∈ ret.items, line.orderItem ∈ order.items
  keyed : ReturnsKeyed db
  refunds : refundsOn order.id db = returnedMoney order.id db

section Lines

theorem checkLines_mem {items : List OrderItem} {lines : List ReturnLineInput} {checked : List ReturnItem}
    (accepted : checkLines items lines = .ok checked) : ∀ line ∈ checked, line.orderItem ∈ items := by
  induction lines generalizing checked with
  | nil =>
      cases accepted
      exact List.forall_mem_nil _
  | cons line lines ih =>
      obtain ⟨first, one, accepted⟩ := bind_eq_ok.mp accepted
      obtain ⟨rest, others, accepted⟩ := bind_eq_ok.mp accepted
      cases accepted
      refine List.forall_mem_cons.mpr ⟨?_, ih others⟩
      unfold checkLine at one
      cases found : itemById items line.orderItemId with
      | none =>
          rw [found] at one
          cases one
      | some item =>
          rw [found] at one
          dsimp only at one
          split at one
          · cases one
          · cases one
            exact (itemById_some found).1

/-- The lines of a return, priced item by item. -/
theorem refundAmount_eq {items : List OrderItem} (keyed : (items.map (·.id)).Nodup) {lines : List ReturnItem}
    (known : ∀ line ∈ lines, line.orderItem ∈ items) :
    refundAmount lines = (items.map fun item => item.unitPriceCents * (unitsOf item.id lines : Int)).sum := by
  induction lines with
  | nil => simp [refundAmount, unitsOf]
  | cons line rest ih =>
      obtain ⟨here, others⟩ := List.forall_mem_cons.mp known
      have first : totalWhere (fun other => other.id = line.orderItem.id)
          (fun item => item.unitPriceCents * (line.quantity : Int)) items =
          line.orderItem.unitPriceCents * (line.quantity : Int) := totalWhere_key keyed here
      have units (item : OrderItem) : item.unitPriceCents * (unitsOf item.id (line :: rest) : Int) =
          (if decide (item.id = line.orderItem.id) then item.unitPriceCents * (line.quantity : Int) else 0) +
            item.unitPriceCents * (unitsOf item.id rest : Int) := by
        by_cases same : item.id = line.orderItem.id
        · simp [unitsOf, same, mul_add]
        · simp [unitsOf, same, Ne.symm same]
      have split : refundAmount (line :: rest) =
          line.orderItem.unitPriceCents * (line.quantity : Int) + refundAmount rest := by
        rw [refundAmount, List.map_cons, List.sum_cons, refundAmount]
      simp only [units]
      rw [List.sum_map_add, ← ih others, ← totalWhere_eq_sum, first, split]

theorem returnedMoney_eq {order : Order} {db : Db} (keyed : (order.items.map (·.id)).Nodup)
    (known : ∀ ret ∈ db.returns, ret.orderId = order.id → ∀ line ∈ ret.items, line.orderItem ∈ order.items) :
    returnedMoney order.id db =
      (order.items.map fun item => item.unitPriceCents * returnedUnits order.id item.id db).sum := by
  unfold returnedMoney returnedUnits
  generalize db.returns = returns at known
  induction returns with
  | nil => simp
  | cons ret rest ih =>
      obtain ⟨here, others⟩ := List.forall_mem_cons.mp known
      by_cases counted : refundedFrom order.id ret = true
      · have own : ret.orderId = order.id := (of_decide_eq_true counted).1
        simp only [totalWhere_cons, if_pos counted, mul_add]
        rw [List.sum_map_add, ← refundAmount_eq keyed (here own), ih others]
      · simp only [totalWhere_cons, if_neg counted, zero_add]
        exact ih others

end Lines

section Capture

theorem captured_of_succeeded {payments : List Payment} {intent : PaymentIntentId} {amount : Int}
    (held : ∃ payment ∈ payments, payment.status = .succeeded ∧ payment.stripePaymentIntentId = some intent)
    (all : ∀ payment ∈ payments, payment.status = .succeeded →
      payment.stripePaymentIntentId = some intent ∧ payment.amountCents = amount) :
    ∃ payment, captured payments = some (payment, intent) ∧ payment.amountCents = amount := by
  cases found : captured payments with
  | none =>
      obtain ⟨payment, member, succeeded, carried⟩ := held
      have missed := List.findSome?_eq_none_iff.mp found payment member
      rw [if_pos succeeded, carried] at missed
      cases missed
  | some pair =>
      obtain ⟨member, succeeded, carried⟩ := captured_some found
      obtain ⟨same, amount⟩ := all pair.1 member succeeded
      cases carried.symm.trans same
      exact ⟨pair.1, rfl, amount⟩

/-- The delivery of a payment leaves one captured payment of its order, of the session's total. -/
theorem settlePayment_captured {session : CheckoutSessionObj} {order : Order} {intent : PaymentIntentId} {before : Db}
    (paymentId : PaymentId) (now : Instant) (awaits : PaymentDue order intent before)
    (charged : session.paymentIntent = some intent) :
    ∃ payment, captured ((settlePayment session paymentId now order before).payments.filter fun payment =>
        payment.orderId = order.id) = some (payment, intent) ∧
      payment.amountCents = session.amountTotal.getD order.totalCents := by
  unfold settlePayment
  rw [charged]
  dsimp only [Db.upsertPayment]
  cases known : before.findPaymentByIntent intent with
  | none =>
      apply captured_of_succeeded
      · refine ⟨capturedPayment session intent paymentId now order, ?_, rfl, rfl⟩
        exact List.mem_filter.mpr ⟨List.mem_append_right _ (List.mem_singleton_self _), decide_eq_true rfl⟩
      · intro payment member succeeded
        obtain ⟨there, mine⟩ := List.mem_filter.mp member
        cases List.mem_append.mp there with
        | inl old => exact absurd succeeded (awaits.uncaptured payment old (of_decide_eq_true mine))
        | inr new =>
            obtain rfl := List.mem_singleton.mp new
            exact ⟨rfl, rfl⟩
  | some found =>
      have there : found ∈ before.payments := List.mem_of_find?_eq_some known
      have carried : found.stripePaymentIntentId = some intent := by simpa using List.find?_some known
      apply captured_of_succeeded
      · refine ⟨{ found with
            status := .succeeded
            amountCents := session.amountTotal.getD order.totalCents
            paidAt := some now }, ?_, rfl, carried⟩
        refine List.mem_filter.mpr ⟨List.mem_map.mpr ⟨found, there, ?_⟩, decide_eq_true (awaits.own found there carried)⟩
        rw [if_pos (decide_eq_true carried)]
      · intro payment member succeeded
        obtain ⟨there, mine⟩ := List.mem_filter.mp member
        obtain ⟨row, present, rfl⟩ := List.mem_map.mp there
        by_cases hit : row.stripePaymentIntentId = some intent
        · rw [if_pos (decide_eq_true hit)]
          exact ⟨hit, rfl⟩
        · simp only [hit, decide_false, Bool.false_eq_true, if_false] at succeeded mine
          exact absurd succeeded (awaits.uncaptured row present (of_decide_eq_true mine))

theorem Repaid.of_settled {session : CheckoutSessionObj} {cartToken : Option CartToken} {paymentId : PaymentId}
    {now : Instant} {order : Order} {intent : PaymentIntentId} {before paid : Db} {confirmation : Option Confirmation}
    (awaits : PaymentDue order intent before) (charged : session.paymentIntent = some intent)
    (settled : settle session cartToken paymentId now order before = .ok (confirmation, paid)) :
    ∃ payment, Repaid order payment intent paid ∧ payment.amountCents = session.amountTotal.getD order.totalCents := by
  obtain ⟨oversold, stock, _, _, rfl⟩ := settle_ok settled
  have there : order ∈ before.orders := List.mem_of_find?_eq_some awaits.found
  obtain ⟨payment, held, amount⟩ := settlePayment_captured paymentId now awaits charged
  refine ⟨payment, ?_, amount⟩
  exact {
    orders := by
      intro other member same
      obtain ⟨row, present, rfl⟩ := List.mem_map.mp member
      split at same
      · rename_i hit
        rw [if_pos hit]
        have equal : row = order := List.inj_on_of_nodup_map awaits.orders present there same
        rw [equal]
        rfl
      · rename_i miss
        rw [if_neg miss]
        exact congrArg Order.items (List.inj_on_of_nodup_map awaits.orders present there same)
    captured := held
    lines := fun ret present mine => absurd mine (awaits.unreturned ret present)
    keyed := awaits.returns
    refunds := by
      have refunds : refundsOn order.id before = 0 :=
        totalWhere_of_forall_not fun refund member => by simpa using awaits.unrefunded refund member
      have returns : returnedMoney order.id before = 0 :=
        totalWhere_of_forall_not fun ret member => by simp [refundedFrom, awaits.unreturned ret member]
      exact refunds.trans returns.symm }

end Capture

section Step

variable {order : Order} {payment : Payment} {intent : PaymentIntentId} {db after : Db} {id : ReturnId}

theorem Repaid.requested {insensitive : String → String → Bool} {slug : String} {dto : RequestReturnDto}
    (repaid : Repaid order payment intent db)
    (requested : Returns.requestReturn insensitive slug dto id db = .ok after) : Repaid order payment intent after := by
  obtain ⟨other, items, found, checked, fresh, rfl⟩ := requestReturn_ok requested
  have member : other ∈ db.orders := List.mem_of_find?_eq_some found
  exact {
    orders := repaid.orders
    captured := repaid.captured
    lines := by
      intro ret there mine
      cases List.mem_append.mp there with
      | inl old => exact repaid.lines ret old mine
      | inr new =>
          obtain rfl := List.mem_singleton.mp new
          rw [← repaid.orders other member mine]
          exact checkLines_mem checked
    keyed := by
      have keyed := repaid.keyed
      unfold ReturnsKeyed at keyed ⊢
      simpa [List.nodup_append, newReturn] using ⟨keyed, fresh⟩
    refunds := by
      refine repaid.refunds.trans ?_
      unfold returnedMoney
      rw [totalWhere_append]
      simp [refundedFrom, newReturn] }

/-- What a change of a return leaves as it is. -/
structure KeepsLines (change : Return → Return) : Prop where
  id : ∀ ret, (change ret).id = ret.id
  orderId : ∀ ret, (change ret).orderId = ret.orderId
  items : ∀ ret, (change ret).items = ret.items

theorem KeepsLines.lines {change : Return → Return} (keeps : KeepsLines change) (selected : Return → Bool)
    (repaid : Repaid order payment intent db) :
    ∀ ret ∈ updateWhere selected change db.returns, ret.orderId = order.id →
      ∀ line ∈ ret.items, line.orderItem ∈ order.items := by
  intro ret there mine
  obtain ⟨row, present, rfl⟩ := List.mem_map.mp there
  by_cases hit : selected row = true
  · rw [if_pos hit] at mine ⊢
    rw [keeps.items]
    exact repaid.lines row present (keeps.orderId row ▸ mine)
  · rw [if_neg hit] at mine ⊢
    exact repaid.lines row present mine

/-- A return that is not refunded, nor becomes so, counts for nothing. -/
theorem Repaid.restated {ret : Return} {change : Return → Return} (repaid : Repaid order payment intent db)
    (found : db.findReturn id = some ret) (before : ret.status ≠ .refunded) (later : (change ret).status ≠ .refunded)
    (keeps : KeepsLines change) :
    Repaid order payment intent { db with returns := updateWhere (fun row => row.id = id) change db.returns } := by
  have member : ret ∈ db.returns := List.mem_of_find?_eq_some found
  exact {
    orders := repaid.orders
    captured := repaid.captured
    lines := keeps.lines _ repaid
    keyed := by
      unfold ReturnsKeyed
      rw [map_updateWhere keeps.id]
      exact repaid.keyed
    refunds := by
      have counted : refundedFrom order.id ret = false := by simp [refundedFrom, before]
      have after : refundedFrom order.id (change ret) = false := by simp [refundedFrom, later]
      refine repaid.refunds.trans ?_
      unfold returnedMoney
      rw [totalWhere_updateWhere_key repaid.keyed member (Db.findReturn_id found), counted, after]
      simp }

theorem items_updateWhere {orders : List Order} {selected : Order → Bool} {change : Order → Order}
    (id : ∀ row, (change row).id = row.id) (items : ∀ row, (change row).items = row.items)
    (all : ∀ other ∈ orders, other.id = order.id → other.items = order.items) :
    ∀ other ∈ updateWhere selected change orders, other.id = order.id → other.items = order.items := by
  intro other there mine
  obtain ⟨row, present, rfl⟩ := List.mem_map.mp there
  by_cases hit : selected row = true
  · rw [if_pos hit] at mine ⊢
    rw [items]
    exact all row present ((id row).symm.trans mine)
  · rw [if_neg hit] at mine ⊢
    exact all row present mine

theorem returnedMoney_refunded {ret : Return} (orderId : OrderId) (received : Option Instant) (now : Instant)
    (keyed : ReturnsKeyed db) (found : db.findReturn id = some ret) (open_ : ret.status ≠ .refunded) :
    returnedMoney orderId
        { db with returns := updateWhere (fun row => row.id = id) (refundedReturn received now) db.returns } =
      returnedMoney orderId db + if ret.orderId = orderId then refundAmount ret.items else 0 := by
  have member : ret ∈ db.returns := List.mem_of_find?_eq_some found
  have before : refundedFrom orderId ret = false := by simp [refundedFrom, open_]
  have later : refundedFrom orderId (refundedReturn received now ret) = decide (ret.orderId = orderId) := by
    simp [refundedFrom, refundedReturn]
  unfold returnedMoney
  dsimp only
  rw [totalWhere_updateWhere_key keyed member (Db.findReturn_id found), before, later]
  simp [refundedReturn]

/-- A return that is refunded puts as much on its order as its lines are worth. -/
theorem Repaid.refunded {stripe : StripeApi} {now : Instant} (repaid : Repaid order payment intent db)
    (refunded : Returns.refund stripe id now db = .ok after) : Repaid order payment intent after := by
  cases Returns.refund_ok refunded with
  | inl same => exact same ▸ repaid
  | inr ran =>
      obtain ⟨read, plan, stripeRefundId, required, planned, _, recorded⟩ := ran
      obtain ⟨found, ordered, payments⟩ := requireReturn_ok required
      obtain ⟨open_, _, ret, its, held, amount⟩ := Returns.planRefund_ok planned
      obtain ⟨stock, _, rfl⟩ := Returns.recordRefund_ok recorded
      have named : plan.ret.id = id := by rw [ret, Db.findReturn_id found]
      have owner : plan.order.id = read.ret.orderId := by rw [its, Db.findOrder_id ordered]
      have keeps : KeepsLines (refundedReturn plan.ret.receivedAt now) := ⟨fun _ => rfl, fun _ => rfl, fun _ => rfl⟩
      exact {
        orders := by
          dsimp only
          cases plan.payment with
          | none => exact repaid.orders
          | some pair => exact items_updateWhere (fun _ => rfl) (fun _ => rfl) repaid.orders
        captured := repaid.captured
        lines := keeps.lines _ repaid
        keyed := by
          unfold ReturnsKeyed
          rw [map_updateWhere keeps.id]
          exact repaid.keyed
        refunds := by
          have moved := returnedMoney_refunded order.id plan.ret.receivedAt now repaid.keyed found open_
          rw [← named] at moved
          refine Eq.trans ?_ moved.symm
          rw [← repaid.refunds]
          unfold refundsOn
          rw [totalWhere_append]
          by_cases own : read.ret.orderId = order.id
          · have mine : plan.order.id = order.id := owner.trans own
            have paid : plan.payment = some (payment, intent) := by
              rw [held, payments, ← its, mine]
              exact repaid.captured
            rw [paid, if_pos own, ← amount]
            simp [ReturnRefundPlan.row, mine]
          · have other : plan.order.id ≠ order.id := fun mine => own (owner.symm.trans mine)
            rw [if_neg own]
            cases plan.payment with
            | none => simp
            | some pair => simp [ReturnRefundPlan.row, other] }

theorem Repaid.step {worker : Worker} {request : Request} (repaid : Repaid order payment intent worker.db)
    (handles : HandlesReturns request) : Repaid order payment intent (Settlement.step worker request).db := by
  refine step_preserves repaid fun _ after ran => ?_
  cases request with
  | deliver job crash => cases handles
  | expire event => cases handles
  | refundOrder stripe id dto => cases handles
  | requestReturn insensitive slug dto id => exact repaid.requested ran
  | approve id =>
      obtain ⟨ret, found, asked, rfl⟩ := approve_ok ran
      exact repaid.restated found (by rw [asked]; exact nofun) nofun ⟨fun _ => rfl, fun _ => rfl, fun _ => rfl⟩
  | reject id =>
      obtain ⟨ret, found, open_, rfl⟩ := reject_ok ran
      exact repaid.restated found open_ nofun ⟨fun _ => rfl, fun _ => rfl, fun _ => rfl⟩
  | refundReturn stripe id now => exact repaid.refunded ran

theorem Repaid.run {worker : Worker} {trace : List Request} (repaid : Repaid order payment intent worker.db)
    (handles : ∀ request ∈ trace, HandlesReturns request) :
    Repaid order payment intent (Transition.run Settlement.step worker trace).db := by
  induction trace generalizing worker with
  | nil => exact repaid
  | cons request rest ih =>
      rw [run_cons]
      exact ih (repaid.step (handles request (by simp))) fun other member => handles other (by simp [member])

end Step

/-- The line prices of a placed order add up to what Stripe was asked for. -/
theorem PlacedFrom.lineTotal {rows : Db} {cart : Cart} {params : SessionParams} {order : Order}
    (placed : PlacedFrom rows cart params order) :
    (order.items.map fun item => item.unitPriceCents * (item.quantity : Int)).sum = sessionTotal params := by
  rw [← placed.session, placed.subtotal, cartTotal]
  have lines := placed.lines
  generalize cart.items = items at lines
  generalize order.items = sold at lines
  induction lines with
  | nil => rfl
  | cons here _ ih =>
      rw [List.map_cons, List.map_cons, List.sum_cons, List.sum_cons, ih, here.unitPriceCents, here.quantity, mul_comm]

/-- Once every unit of an order has come back, in however many returns, its refunds add up to
the capture exactly when Stripe has collected no tax.  `total` is Stripe's total with exclusive tax;
inclusive tax is part of the lines. -/
theorem full_returns_refund_capture_iff {rows before paid : Db} {cart : Cart} {params : SessionParams} {order : Order}
    {session : CheckoutSessionObj} {intent : PaymentIntentId} {paymentId : PaymentId} {now : Instant}
    {confirmation : Confirmation} {metadata : Metadata} (done : List EventId) {trace : List Request}
    (placed : PlacedFrom rows cart params order) (awaits : PaymentDue order intent before)
    (about : session.metadata = some metadata) (named : metadata.orderId = some order.id)
    (charged : session.paymentIntent = some intent)
    (total : session.amountTotal = some (sessionTotal params + session.amountTax.getD 0))
    (settled : onCheckoutCompleted session paymentId now before = .ok (some confirmation, paid))
    (handles : ∀ request ∈ trace, HandlesReturns request)
    (split : ∀ item ∈ order.items,
      returnedUnits order.id item.id (run step { db := paid, done } trace).db = (item.quantity : Int)) :
    ∃ payment, captured ((run step { db := paid, done } trace).db.payments.filter fun payment =>
        payment.orderId = order.id) = some (payment, intent) ∧
      (refundsOn order.id (run step { db := paid, done } trace).db = payment.amountCents ↔
        session.amountTax.getD 0 = 0) := by
  obtain ⟨unsettled, _⟩ | ⟨other, row, own, _, its, found, _, _, settled⟩ := onCheckoutCompleted_ok settled
  · cases unsettled
  · cases about.symm.trans own
    have same : row.id = order.id := Option.some.inj (its.symm.trans named)
    rw [same] at found
    cases found.symm.trans awaits.found
    obtain ⟨payment, repaid, amount⟩ := Repaid.of_settled awaits charged settled
    have ended : Repaid order payment intent (run step { db := paid, done } trace).db := Repaid.run repaid handles
    refine ⟨payment, ended.captured, ?_⟩
    have units : (order.items.map fun item => item.unitPriceCents *
        returnedUnits order.id item.id (run step { db := paid, done } trace).db) =
        order.items.map fun item => item.unitPriceCents * (item.quantity : Int) :=
      List.map_congr_left fun item member => by rw [split item member]
    rw [ended.refunds, returnedMoney_eq awaits.items ended.lines, units, placed.lineTotal, amount, total,
      Option.getD_some]
    constructor
    · intro equal
      omega
    · intro untaxed
      omega

section TwoLamps

def lampsInCart : Cart where
  token := 1
  storeId := 1
  currency := "USD"
  convertedOrderId := none
  items := [⟨7, 2, 500⟩]

def lampsParams : SessionParams where
  mode := "payment"
  lineItems := [⟨2, "usd", 500, "Lamp", none⟩]
  successUrl := "https://shop/thanks"
  cancelUrl := "https://shop/cart"
  allowedCountries := ["US"]
  metadata := sessionMetadata 1 1 1
  orderNumber := "1001"
  applicationFeeAmount := none
  destination := none
  customerEmail := some "ada@example.com"
  automaticTax := true

def boughtLamps : Order := lampOrder .pending .unpaid

theorem boughtLamps_placed : PlacedFrom lampShop lampsInCart lampsParams boughtLamps where
  status := rfl
  financialStatus := rfl
  lines := .cons ⟨rfl, rfl, rfl, rfl⟩ .nil
  total := rfl
  subtotal := rfl
  session := rfl
  feeNonneg := by decide
  feeBounded := by decide
  feeSent := rfl

theorem boughtLamps_due : PaymentDue boughtLamps 1 (lampRows boughtLamps []) where
  orders := by decide
  returns := by simp [ReturnsKeyed, lampRows]
  items := by decide
  found := rfl
  unreturned := nofun
  unrefunded := nofun
  uncaptured := nofun
  own := nofun

/-- The session of the lamps, with this tax collected on top. -/
def taxedSession (tax : Int) : CheckoutSessionObj :=
  { lampSession with amountTotal := some (1000 + tax), amountTax := some tax }

def settledLamps (tax : Int) : Db :=
  match onCheckoutCompleted (taxedSession tax) 1 2 (lampRows boughtLamps []) with
  | .ok (_, after) => after
  | .error _ => lampRows boughtLamps []

def returnBothLamps : List Request := [
  .requestReturn (fun one other => one = other) "lamps" ⟨"ada@example.com", 1001, none, [bothLamps], by simp⟩ 5,
  .refundReturn (granting 9) 5 3]

theorem lamps_refund_capture_iff :
    ∃ payment, captured ((run step { db := settledLamps 80, done := [] } returnBothLamps).db.payments.filter
        fun payment => payment.orderId = boughtLamps.id) = some (payment, 1) ∧
      (refundsOn boughtLamps.id (run step { db := settledLamps 80, done := [] } returnBothLamps).db =
        payment.amountCents ↔ (taxedSession 80).amountTax.getD 0 = 0) :=
  full_returns_refund_capture_iff [] boughtLamps_placed boughtLamps_due rfl rfl rfl rfl rfl
    (by simp [returnBothLamps, HandlesReturns]) (by decide)

/-- Both lamps have come back, 1080 were captured, and 1000 are refunded. -/
theorem returned_lamps_keep_tax :
    (∀ item ∈ boughtLamps.items, returnedUnits boughtLamps.id item.id
      (run step { db := settledLamps 80, done := [] } returnBothLamps).db = (item.quantity : Int)) ∧
    captured ((run step { db := settledLamps 80, done := [] } returnBothLamps).db.payments.filter
        fun payment => payment.orderId = boughtLamps.id) =
      some (capturedPayment (taxedSession 80) 1 1 2 boughtLamps, 1) ∧
    refundsOn boughtLamps.id (run step { db := settledLamps 80, done := [] } returnBothLamps).db = 1000 ∧
    (capturedPayment (taxedSession 80) 1 1 2 boughtLamps).amountCents = 1080 :=
  ⟨by decide, by decide, by decide, rfl⟩

end TwoLamps

end Aicos.Properties
