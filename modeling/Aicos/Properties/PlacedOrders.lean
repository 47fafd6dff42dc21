import Aicos.Properties.PlatformFees
import Aicos.Storefront.Market
import Aicos.Storefront.Session
import Mathlib.Data.List.Forall2

namespace Aicos.Properties

open Aicos.Billing Aicos.Commerce Aicos.Data Aicos.Storefront Aicos.Transition

/-! What one checkout leaves behind: an order whose money agrees with the cart and with the
session, or the rows as they were. -/

/-- The live price of a cart item. -/
def currentPrice (db : Db) (item : CartItem) : Int :=
  ((db.findVariant item.variantId).map (·.priceCents)).getD 0

def cartTotal (db : Db) (cart : Cart) : Int :=
  (cart.items.map fun item => (item.quantity : Int) * currentPrice db item).sum

def sessionTotal (params : SessionParams) : Int :=
  (params.lineItems.map fun item => item.unitAmount * (item.quantity : Int)).sum

/-- The order line of a cart item. -/
structure LineFor (db : Db) (item : CartItem) (line : OrderItem) : Prop where
  variantId : line.variantId = some item.variantId
  quantity : line.quantity = item.quantity
  unitPriceCents : line.unitPriceCents = currentPrice db item
  totalCents : line.totalCents = (item.quantity : Int) * currentPrice db item

/-- The order a checkout has placed from a cart. -/
structure PlacedFrom (db : Db) (cart : Cart) (params : SessionParams) (order : Order) : Prop where
  status : order.status = .pending
  financialStatus : order.financialStatus = .unpaid
  lines : List.Forall₂ (LineFor db) cart.items order.items
  total : order.totalCents = order.subtotalCents
  subtotal : order.subtotalCents = cartTotal db cart
  session : order.subtotalCents = sessionTotal params
  feeNonneg : 0 ≤ order.applicationFeeCents
  feeBounded : order.applicationFeeCents ≤ order.subtotalCents
  feeSent : params.applicationFeeAmount.getD 0 = order.applicationFeeCents

/-- The foreign keys of the rows that go with an order. -/
structure OrdersNamed (db : Db) : Prop where
  payments : ∀ payment ∈ db.payments, ∃ order ∈ db.orders, order.id = payment.orderId
  refunds : ∀ refund ∈ db.refunds, ∃ order ∈ db.orders, order.id = refund.orderId
  returns : ∀ ret ∈ db.returns, ∃ order ∈ db.orders, order.id = ret.orderId

/-- Stripe takes no negative amount. -/
def RefusesNegative (stripe : SessionParams → SessionAnswer) : Prop :=
  ∀ params, (∃ item ∈ params.lineItems, item.unitAmount < 0) → ∀ session, stripe params ≠ .created session

section Lines

variable {db : Db}

/-- A checkout line against its cart item. -/
structure PricedFrom (db : Db) (item : CartItem) (line : CheckoutLine) : Prop where
  variantId : line.variantId = item.variantId
  quantity : line.quantity = item.quantity
  unitPriceCents : line.unitPriceCents = currentPrice db item
  totalCents : line.totalCents = line.unitPriceCents * (line.quantity : Int)

theorem toLine_priced {item : CartItem} {line : CheckoutLine} (returned : toLine db item = .ok line) :
    PricedFrom db item line := by
  unfold toLine at returned
  split at returned
  · cases returned
  · rename_i variant found
    split at returned
    · cases returned
    · cases returned
      exact ⟨rfl, rfl, by simp [currentPrice, found], rfl⟩

theorem toLines_priced {items : List CartItem} {lines : List CheckoutLine} (returned : toLines db items = .ok lines) :
    List.Forall₂ (PricedFrom db) items lines := by
  induction items generalizing lines with
  | nil =>
      cases returned
      exact .nil
  | cons item rest ih =>
      obtain ⟨line, first, returned⟩ := bind_eq_ok.mp returned
      obtain ⟨later, others, returned⟩ := bind_eq_ok.mp returned
      cases returned
      exact .cons (toLine_priced first) (ih others)

theorem subtotal_eq_cartTotal {cart : Cart} {priced : PricedCart}
    (lines : List.Forall₂ (PricedFrom db) cart.items priced.lines) : priced.subtotalCents = cartTotal db cart := by
  rw [PricedCart.subtotalCents, cartTotal]
  generalize cart.items = items at lines
  generalize priced.lines = rows at lines
  induction lines with
  | nil => rfl
  | @cons item line items rows here _ ih =>
      rw [List.map_cons, List.map_cons, List.sum_cons, List.sum_cons, ih, here.totalCents, here.unitPriceCents,
        here.quantity, mul_comm]

theorem subtotal_eq_sessionTotal (config : CheckoutConfig) (tenantId : TenantId) (orderId : OrderId) (number : Nat)
    {plan : CheckoutPlan} {items : List CartItem}
    (lines : List.Forall₂ (PricedFrom db) items plan.priced.lines) :
    plan.priced.subtotalCents = sessionTotal (sessionParams config tenantId plan orderId number) := by
  rw [PricedCart.subtotalCents, sessionTotal, sessionParams]
  dsimp only
  generalize plan.priced.lines = rows at lines
  induction lines with
  | nil => rfl
  | @cons item line items rows here _ ih =>
      rw [List.map_cons, List.map_cons, List.map_cons, List.sum_cons, List.sum_cons, ih, here.totalCents]
      rfl

theorem draftOrder_lines {items : List CartItem} {plan : CheckoutPlan} (id : OrderId) (firstItemId : OrderItemId)
    (number : Nat) (now : Instant) (lines : List.Forall₂ (PricedFrom db) items plan.priced.lines) :
    List.Forall₂ (LineFor db) items (draftOrder plan id firstItemId number now).items := by
  refine List.forall₂_iff_get.mpr ⟨by simpa [draftOrder] using lines.length_eq, fun index here there => ?_⟩
  have priced := lines.get here (by simpa [draftOrder] using there)
  simp only [List.get_eq_getElem, draftOrder, List.getElem_mapIdx] at priced ⊢
  refine ⟨congrArg some priced.variantId, priced.quantity, priced.unitPriceCents, ?_⟩
  rw [orderLine, priced.totalCents, priced.unitPriceCents, priced.quantity, mul_comm]

/-- Stripe has taken the session, so nothing in it is negative. -/
theorem subtotal_nonneg {config : CheckoutConfig} {stripe : SessionParams → SessionAnswer} {tenantId : TenantId}
    {plan : CheckoutPlan} {orderId : OrderId} {number : Nat} {items : List CartItem} {session : StripeSession}
    (refuses : RefusesNegative stripe)
    (created : stripe (sessionParams config tenantId plan orderId number) = .created session)
    (lines : List.Forall₂ (PricedFrom db) items plan.priced.lines) : 0 ≤ plan.priced.subtotalCents := by
  rw [subtotal_eq_sessionTotal config tenantId orderId number lines]
  refine List.sum_nonneg fun amount member => ?_
  obtain ⟨item, there, rfl⟩ := List.mem_map.mp member
  have nonneg : 0 ≤ item.unitAmount := by
    by_contra negative
    exact refuses _ ⟨item, there, by omega⟩ session created
  exact mul_nonneg nonneg (Int.natCast_nonneg _)

end Lines

section Rows

variable {db : Db} {order : Order}

theorem planCheckout_useConnect (priced : PricedCart) (bps : Int) (db : Db) :
    ((planCheckout bps priced db).useConnect = true → (planCheckout bps priced db).destination.isSome = true) ∧
      ((planCheckout bps priced db).useConnect = false → (planCheckout bps priced db).applicationFeeCents = 0) := by
  unfold planCheckout
  cases db.connectAccount with
  | none => exact ⟨nofun, fun _ => rfl⟩
  | some account => exact ⟨fun _ => rfl, fun direct => if_neg (Bool.not_eq_true _ ▸ direct)⟩

/-- The fee goes to Stripe on a destination charge, and there is none on a direct one. -/
theorem planCheckout_feeSent (config : CheckoutConfig) (tenantId : TenantId) (priced : PricedCart) (bps : Int)
    (orderId : OrderId) (number : Nat) (db : Db) :
    (sessionParams config tenantId (planCheckout bps priced db) orderId number).applicationFeeAmount.getD 0 =
      (planCheckout bps priced db).applicationFeeCents := by
  obtain ⟨destination, direct⟩ := planCheckout_useConnect priced bps db
  generalize planCheckout bps priced db = plan at destination direct
  unfold sessionParams
  dsimp only
  cases enabled : plan.useConnect with
  | true => rw [if_pos ⟨rfl, destination enabled⟩, Option.getD_some]
  | false => rw [if_neg fun both => Bool.false_ne_true both.1, direct enabled, Option.getD_none]

theorem planCheckout_fee {priced : PricedCart} {bps : Int} (db : Db) (nonneg : 0 ≤ priced.subtotalCents)
    (whole : bps ≤ 10000) :
    0 ≤ (planCheckout bps priced db).applicationFeeCents ∧
      (planCheckout bps priced db).applicationFeeCents ≤ priced.subtotalCents := by
  simp only [planCheckout]
  split
  · exact ⟨platformFeeCents_nonneg _ _, platformFeeCents_le nonneg whole⟩
  · exact ⟨le_rfl, nonneg⟩

theorem deleteOrder_appended (named : OrdersNamed db) (fresh : ∀ other ∈ db.orders, other.id ≠ order.id) :
    Db.deleteOrder order.id { db with orders := db.orders ++ [order] } = .ok db := by
  have absent : db.orders.find? (fun other => other.id = order.id) = none :=
    List.find?_eq_none.mpr fun other member => by simpa using fresh other member
  have found : Db.findOrder order.id { db with orders := db.orders ++ [order] } = some order := by
    simp [Db.findOrder, List.find?_append, absent]
  have others {name : OrderId} (named : ∃ other ∈ db.orders, other.id = name) : name ≠ order.id := by
    obtain ⟨other, member, rfl⟩ := named
    exact fresh other member
  have orders : (db.orders ++ [order]).filter (fun other => other.id ≠ order.id) = db.orders := by
    rw [List.filter_append, List.filter_eq_self.mpr fun other member => by simpa using fresh other member]
    simp
  have payments : db.payments.filter (fun payment => payment.orderId ≠ order.id) = db.payments :=
    List.filter_eq_self.mpr fun payment member => by simpa using others (named.payments payment member)
  have refunds : db.refunds.filter (fun refund => refund.orderId ≠ order.id) = db.refunds :=
    List.filter_eq_self.mpr fun refund member => by simpa using others (named.refunds refund member)
  have returns : db.returns.filter (fun ret => ret.orderId ≠ order.id) = db.returns :=
    List.filter_eq_self.mpr fun ret member => by simpa using others (named.returns ret member)
  rw [Db.deleteOrder, found]
  dsimp only
  rw [orders, payments, refunds, returns]
  rfl

theorem answeredBy_ok {answer : Answer} {body : Db → Tx Db} {after : Db} (took : answer ≠ .fails)
    (ran : body db = .ok after) : (answeredBy answer body db).2 = after := by
  cases answer with
  | works => simp only [answeredBy, ran]
  | fails => exact absurd rfl took
  | lost => simp only [answeredBy, ran]

/-- The compensation removes the order, recorded or not, and nothing else. -/
theorem undoOrder_appended {answer : Answer} (named : OrdersNamed db) (fresh : ∀ other ∈ db.orders, other.id ≠ order.id)
    (message : Option String) (deleted : answer ≠ .fails) :
    (undoOrder answer order.id message { db with orders := db.orders ++ [order] }).2 = db := by
  exact answeredBy_ok deleted (deleteOrder_appended named fresh)

theorem recordSession_appended {session : CheckoutSessionId} {intent : Option PaymentIntentId} {after : Db}
    (fresh : ∀ other ∈ db.orders, other.id ≠ order.id)
    (recorded : recordSession order.id session intent { db with orders := db.orders ++ [order] } = .ok after) :
    after = { db with orders := db.orders ++ [openedOrder session intent order] } := by
  obtain ⟨_, rfl⟩ := Db.updateOrder_ok recorded
  have kept : updateWhere (fun row => row.id = order.id) (openedOrder session intent) db.orders = db.orders :=
    updateWhere_of_forall_not fun other member => by simpa using fresh other member
  have appended : updateWhere (fun row => row.id = order.id) (openedOrder session intent) (db.orders ++ [order]) =
      db.orders ++ [openedOrder session intent order] := by
    rw [updateWhere, List.map_append, ← updateWhere, kept]
    simp
  rw [appended]

/-- The update of the order takes effect or leaves it as it was. -/
theorem answeredBy_record {id : OrderId} (answer : Answer) (session : CheckoutSessionId)
    (intent : Option PaymentIntentId) (own : order.id = id) (fresh : ∀ other ∈ db.orders, other.id ≠ order.id) :
    let recorded := answeredBy answer (recordSession id session intent) { db with orders := db.orders ++ [order] }
    (recorded.1 = true → recorded.2 = { db with orders := db.orders ++ [openedOrder session intent order] }) ∧
      ∃ kept, kept.id = id ∧ recorded.2 = { db with orders := db.orders ++ [kept] } := by
  subst own
  cases ran : recordSession order.id session intent { db with orders := db.orders ++ [order] } with
  | error failure => cases answer <;> simp only [answeredBy, ran] <;> exact ⟨nofun, order, rfl, rfl⟩
  | ok after =>
      have placed := recordSession_appended fresh ran
      cases answer with
      | works =>
          simp only [answeredBy, ran]
          exact ⟨fun _ => placed, openedOrder session intent order, rfl, placed⟩
      | fails => exact ⟨nofun, order, rfl, rfl⟩
      | lost =>
          simp only [answeredBy, ran]
          exact ⟨nofun, openedOrder session intent order, rfl, placed⟩

end Rows

/-- A checkout that runs alone returns and has placed one order from its cart, or throws
and, once its order is deleted, has changed nothing. -/
theorem checkout_places_or_leaves (config : CheckoutConfig) {stripe : SessionParams → SessionAnswer}
    (refuses : RefusesNegative stripe) (rate : config.feeBps ≤ 10000) (slug : String) (dto : CreateCheckoutDto)
    (draw : CheckoutDraw) (answers : CheckoutAnswers) {db : Db} (named : OrdersNamed db) :
    (∃ receipt cart params order, (checkout config stripe slug dto draw answers db).result = .ok receipt ∧
        db.findCart dto.token = some cart ∧ (checkout config stripe slug dto draw answers db).sent = some params ∧
        (checkout config stripe slug dto draw answers db).db = { db with orders := db.orders ++ [order] } ∧
        order.id = receipt.orderId ∧ PlacedFrom db cart params order) ∨
      (∃ failure, (checkout config stripe slug dto draw answers db).result = .error failure) ∧
        (answers.deleted ≠ .fails → (checkout config stripe slug dto draw answers db).db = db) := by
  unfold checkout
  cases priced : priceCart config.isApiConfigured slug dto db with
  | error failure => exact .inr ⟨⟨failure, rfl⟩, fun _ => rfl⟩
  | ok cartLines =>
      dsimp only
      obtain ⟨_, store, _, cart, found, _, _, lines, read, rfl⟩ := priceCart_ok_iff.mp priced
      have agree := toLines_priced read
      cases created : createOrder (planCheckout config.feeBps { store, dto, lines } db) draw.orderId draw.firstItemId
          draw.now db with
      | error failure => exact .inr ⟨⟨failure, rfl⟩, fun _ => rfl⟩
      | ok ordered =>
          dsimp only
          obtain ⟨fresh, _, rfl⟩ := Db.createOrder_ok_iff.mp created
          generalize params : sessionParams config db.tenantId (planCheckout config.feeBps { store, dto, lines } db)
            draw.orderId (nextNumber (lastOrder db)) = sent
          cases answer : stripe sent with
          | threw message =>
              refine .inr ⟨⟨_, rfl⟩, fun deleted => ?_⟩
              exact undoOrder_appended named fresh message deleted
          | created session =>
              dsimp only
              have own : (draftOrder (planCheckout config.feeBps { store, dto, lines } db) draw.orderId draw.firstItemId
                (nextNumber (lastOrder db)) draw.now).id = draw.orderId := rfl
              obtain ⟨placed, kept, keyed, left⟩ :=
                answeredBy_record answers.recorded session.id session.paymentIntent own fresh
              generalize answeredBy answers.recorded (recordSession draw.orderId session.id session.paymentIntent) _ =
                recorded at placed left ⊢
              obtain ⟨returned, after⟩ := recorded
              cases returned with
              | true =>
                  have nonneg := subtotal_nonneg refuses (params ▸ answer) agree
                  obtain ⟨feeNonneg, feeBounded⟩ := planCheckout_fee db nonneg rate
                  refine .inl ⟨_, cart, sent, _, rfl, found, rfl, placed rfl, own, ?_⟩
                  exact {
                    status := rfl
                    financialStatus := rfl
                    lines := draftOrder_lines draw.orderId draw.firstItemId (nextNumber (lastOrder db)) draw.now agree
                    total := rfl
                    subtotal := subtotal_eq_cartTotal agree
                    session := params ▸ subtotal_eq_sessionTotal config db.tenantId draw.orderId _ agree
                    feeNonneg
                    feeBounded
                    feeSent := params ▸ planCheckout_feeSent config db.tenantId _ _ draw.orderId _ db }
              | false =>
                  refine .inr ⟨⟨_, rfl⟩, fun deleted => ?_⟩
                  have others : ∀ other ∈ db.orders, other.id ≠ kept.id := by
                    rw [keyed]
                    exact fresh
                  have undone := undoOrder_appended named others answers.message deleted
                  rw [keyed, ← left] at undone
                  exact undone

section OneLamp

def destinationCharges : CheckoutConfig where
  isApiConfigured := true
  platformFeeBps := some 250
  checkoutSuccessUrl := "https://shop/thanks"
  checkoutCancelUrl := "https://shop/cart"
  taxEnabled := none
  shippingCountries := none
  toLowerCase := id

/-- A Stripe that opens every session without a negative amount. -/
def openingStripe (params : SessionParams) : SessionAnswer :=
  if params.lineItems.any fun item => item.unitAmount < 0 then .threw (some "Invalid non-negative integer")
  else .created ⟨1, none, some "https://checkout/1"⟩

theorem openingStripe_refuses : RefusesNegative openingStripe := by
  intro params given session
  obtain ⟨item, member, negative⟩ := given
  have any : (params.lineItems.any fun item => item.unitAmount < 0) = true :=
    List.any_eq_true.mpr ⟨item, member, decide_eq_true negative⟩
  simp [openingStripe, any]

def lampShop : Db where
  tenantId := 1
  stores := [{ id := 1, slug := "lamps", name := "Lamps", status := .published, currency := "EUR" }]
  variants := [{
    id := 7, product := { status := .active, title := "Lamp", slug := "lamp" }, title := "Default", sku := none
    priceCents := 500, inventoryPolicy := .deny, deletedAt := none }]
  stock := { items := [], movements := [] }
  carts := [{ token := 1, storeId := 1, currency := "EUR", convertedOrderId := none, items := [⟨7, 2, 450⟩] }]
  orders := []
  payments := []
  refunds := []
  returns := []
  connectAccount := some ⟨1, true, true, true, [], [], none⟩

def lampDraw : CheckoutDraw := ⟨1, 1, 10⟩

def lampAnswers : CheckoutAnswers := ⟨.works, .works, none⟩

theorem checkout_of_lamps :
    ∃ receipt cart params order,
      (checkout destinationCharges openingStripe "lamps" ⟨1, none⟩ lampDraw lampAnswers lampShop).result = .ok receipt ∧
      lampShop.findCart 1 = some cart ∧
      (checkout destinationCharges openingStripe "lamps" ⟨1, none⟩ lampDraw lampAnswers lampShop).sent = some params ∧
      (checkout destinationCharges openingStripe "lamps" ⟨1, none⟩ lampDraw lampAnswers lampShop).db =
        { lampShop with orders := lampShop.orders ++ [order] } ∧
      order.id = receipt.orderId ∧ PlacedFrom lampShop cart params order := by
  have named : OrdersNamed lampShop := ⟨nofun, nofun, nofun⟩
  have outcome := checkout_places_or_leaves destinationCharges openingStripe_refuses (by decide) "lamps" ⟨1, none⟩
    lampDraw lampAnswers named
  refine outcome.resolve_right fun thrown => ?_
  obtain ⟨⟨failure, failed⟩, _⟩ := thrown
  have returned :
      (checkout destinationCharges openingStripe "lamps" ⟨1, none⟩ lampDraw lampAnswers lampShop).result.isOk = true := by
    decide
  rw [failed] at returned
  cases returned

end OneLamp

end Aicos.Properties
