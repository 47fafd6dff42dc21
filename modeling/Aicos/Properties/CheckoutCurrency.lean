import Aicos.Properties.PlacedOrders
import Aicos.Properties.ShownSales

namespace Aicos.Properties

open Aicos.Billing Aicos.Catalog Aicos.Commerce Aicos.Data Aicos.Storefront

/-! The currency a checkout charges in.  It is the store's, for the order as for the session;
the currencies of the variants are not read. -/

/-- The variants, priced in other currencies. -/
def recolour (currency : Variant → String) : Change Variant where
  apply := fun row => { row with currency := currency row }
  id := fun _ => rfl
  tenantId := fun _ => rfl

def inCurrencies (currency : Variant → String) (market : Market) : Market :=
  { market with platform := { market.platform with
    variants := market.platform.variants.modify (fun _ => true) (recolour currency) } }

/-- The order line of a cart item, at the price of its variant as it stands. -/
structure ChargedFor (market : Market) (item : CartItem) (line : OrderItem) : Prop where
  variantId : line.variantId = some item.variantId
  price : ∃ variant, market.platform.variants.find? item.variantId = some variant ∧
    line.unitPriceCents = variant.priceCents

/-- What a store charges for a cart. -/
structure ChargedByStore (config : CheckoutConfig) (market : Market) (store : Store) (cart : Cart)
    (params : SessionParams) (order : Order) : Prop where
  currency : order.currency = store.currency
  session : ∀ item ∈ params.lineItems, item.currency = config.toLowerCase store.currency
  amounts : params.lineItems.map (·.unitAmount) = order.items.map (·.unitPriceCents)
  lines : List.Forall₂ (ChargedFor market) cart.items order.items

/-- The variant of an order line is priced in this currency. -/
def PricedIn (market : Market) (currency : String) (line : OrderItem) : Prop :=
  ∃ id variant, line.variantId = some id ∧ market.platform.variants.find? id = some variant ∧
    variant.currency = currency

/-- Every variant of a cart is priced in this currency. -/
def CartPricedIn (market : Market) (currency : String) (cart : Cart) : Prop :=
  ∀ item ∈ cart.items, ∀ variant, market.platform.variants.find? item.variantId = some variant →
    variant.currency = currency

theorem view_inCurrencies (currency : Variant → String) (market : Market) :
    (inCurrencies currency market).view = market.view := by
  have rows : shelf (inCurrencies currency market).platform (inCurrencies currency market).db.tenantId =
      shelf market.platform market.db.tenantId := by
    change ((updateWhere _ (recolour currency).apply market.platform.variants.rows).filter _).filterMap _ = _
    rw [updateWhere, List.filter_map, List.filterMap_map]
    rfl
  unfold Market.view
  rw [rows]
  rfl

section Charging

variable {market : Market} {item : CartItem}

/-- The price a cart item is sold at is a column of its variant. -/
theorem currentPrice_view (buyable : Buyable market.view item) :
    ∃ variant, market.platform.variants.find? item.variantId = some variant ∧
      currentPrice market.view item = variant.priceCents := by
  obtain ⟨row, found, _⟩ := buyable
  have same : row.id = item.variantId := by simpa using List.find?_some found
  obtain ⟨variant, present, joined⟩ := List.mem_filterMap.mp (List.mem_of_find?_eq_some found)
  obtain ⟨product, _, rfl⟩ := Option.map_eq_some_iff.mp joined
  refine ⟨variant, ?_, ?_⟩
  · exact same ▸ Table.find?_of_mem (List.mem_filter.mp present).1
  · rw [currentPrice, found, Option.map_some, Option.getD_some]

theorem LineFor.charged {line : OrderItem} (priced : LineFor market.view item line)
    (buyable : Buyable market.view item) : ChargedFor market item line := by
  obtain ⟨variant, found, price⟩ := currentPrice_view buyable
  exact ⟨priced.variantId, variant, found, priced.unitPriceCents.trans price⟩

/-- A line is in the currency of its variant where that is the currency. -/
theorem ChargedFor.pricedIn_iff {line : OrderItem} {currency : String} (charged : ChargedFor market item line) :
    PricedIn market currency line ↔
      ∀ variant, market.platform.variants.find? item.variantId = some variant → variant.currency = currency := by
  obtain ⟨named, variant, found, _⟩ := charged
  constructor
  · intro named row present
    obtain ⟨id, other, its, there, same⟩ := named
    cases named.symm.trans its
    cases there.symm.trans present
    exact same
  · intro all
    exact ⟨item.variantId, variant, named, found, all variant found⟩

theorem forall_pricedIn_iff {cart : Cart} {lines : List OrderItem} {currency : String}
    (charged : List.Forall₂ (ChargedFor market) cart.items lines) :
    (∀ line ∈ lines, PricedIn market currency line) ↔ CartPricedIn market currency cart := by
  unfold CartPricedIn
  generalize cart.items = items at charged
  induction charged with
  | nil => simp
  | cons here _ ih => rw [List.forall_mem_cons, List.forall_mem_cons, here.pricedIn_iff, ih]

theorem draftOrder_charged {items : List CartItem} {plan : CheckoutPlan} (id : OrderId) (firstItemId : OrderItemId)
    (number : Nat) (now : Instant) (read : toLines market.view items = .ok plan.priced.lines) :
    List.Forall₂ (ChargedFor market) items (draftOrder plan id firstItemId number now).items := by
  have buyable := (toLines_ok read).1
  have priced := draftOrder_lines id firstItemId number now (toLines_priced read)
  have both := (List.forall₂_and_left items _).mpr ⟨buyable, priced⟩
  exact both.imp fun item line each => each.2.charged each.1

end Charging

section Returned

variable {db : Db} {config : CheckoutConfig} {stripe : SessionParams → SessionAnswer} {slug : String}
  {dto : CreateCheckoutDto} {draw : CheckoutDraw} {answers : CheckoutAnswers} {receipt : CheckoutResult}

/-- A checkout that returns has sent the session of its priced cart and opened its order. -/
theorem checkout_ok (returned : (checkout config stripe slug dto draw answers db).result = .ok receipt) :
    ∃ plan cart, ∃ session : StripeSession, db.publishedStore slug = some plan.priced.store ∧
      db.findCart dto.token = some cart ∧ toLines db cart.items = .ok plan.priced.lines ∧
      (checkout config stripe slug dto draw answers db).sent =
        some (sessionParams config db.tenantId plan draw.orderId (nextNumber (lastOrder db))) ∧
      (checkout config stripe slug dto draw answers db).db =
        { db with orders := db.orders ++ [openedOrder session.id session.paymentIntent
          (draftOrder plan draw.orderId draw.firstItemId (nextNumber (lastOrder db)) draw.now)] } ∧
      receipt.orderId = draw.orderId := by
  revert returned
  unfold checkout
  cases priced : priceCart config.isApiConfigured slug dto db with
  | error failure => exact nofun
  | ok cartLines =>
      obtain ⟨_, store, published, cart, found, _, _, lines, read, rfl⟩ := priceCart_ok_iff.mp priced
      dsimp only
      cases created : createOrder (planCheckout config.feeBps { store, dto, lines } db) draw.orderId draw.firstItemId
          draw.now db with
      | error failure => exact nofun
      | ok ordered =>
          obtain ⟨fresh, _, rfl⟩ := Db.createOrder_ok_iff.mp created
          dsimp only
          generalize params : sessionParams config db.tenantId _ draw.orderId _ = sent
          cases answer : stripe sent with
          | threw message => exact nofun
          | created session =>
              dsimp only
              have own : (draftOrder (planCheckout config.feeBps { store, dto, lines } db) draw.orderId draw.firstItemId
                (nextNumber (lastOrder db)) draw.now).id = draw.orderId := rfl
              obtain ⟨placed, _⟩ := answeredBy_record answers.recorded session.id session.paymentIntent own fresh
              generalize answeredBy answers.recorded (recordSession draw.orderId session.id session.paymentIntent) _ =
                recorded at placed ⊢
              obtain ⟨took, after⟩ := recorded
              cases took with
              | false => exact nofun
              | true =>
                  intro returned
                  cases returned
                  exact ⟨_, cart, session, published, found, read, congrArg some params.symm, placed rfl, rfl⟩

end Returned

/-- A checkout charges a cart in the currency of its store, at the prices of the variants as
they stand, whatever currencies these are in. -/
theorem checkout_charges_in_store_currency (config : CheckoutConfig) (stripe : SessionParams → SessionAnswer)
    (slug : String) (dto : CreateCheckoutDto) (draw : CheckoutDraw) (answers : CheckoutAnswers) (market : Market) :
    (∀ currency, checkout config stripe slug dto draw answers (inCurrencies currency market).view =
      checkout config stripe slug dto draw answers market.view) ∧
    ((∃ failure, (checkout config stripe slug dto draw answers market.view).result = .error failure) ∨
      ∃ receipt store cart params order,
        (checkout config stripe slug dto draw answers market.view).result = .ok receipt ∧
        market.view.publishedStore slug = some store ∧ market.view.findCart dto.token = some cart ∧
        (checkout config stripe slug dto draw answers market.view).sent = some params ∧
        order ∈ (checkout config stripe slug dto draw answers market.view).db.orders ∧
        order.id = receipt.orderId ∧ ChargedByStore config market store cart params order ∧
        ((∀ line ∈ order.items, PricedIn market order.currency line) ↔ CartPricedIn market store.currency cart)) := by
  refine ⟨fun currency => by rw [view_inCurrencies], ?_⟩
  cases returned : (checkout config stripe slug dto draw answers market.view).result with
  | error failure => exact .inl ⟨failure, rfl⟩
  | ok receipt =>
      obtain ⟨plan, cart, session, published, found, read, sent, placed, named⟩ := checkout_ok returned
      have charged := draftOrder_charged draw.orderId draw.firstItemId (nextNumber (lastOrder market.view)) draw.now read
      refine .inr ⟨receipt, plan.priced.store, cart, _, openedOrder session.id session.paymentIntent
        (draftOrder plan draw.orderId draw.firstItemId (nextNumber (lastOrder market.view)) draw.now), rfl, published,
        found, sent, ?_, named.symm, ?_, forall_pricedIn_iff charged⟩
      · rw [placed]
        exact List.mem_append_right _ (List.mem_singleton_self _)
      · exact {
          currency := rfl
          session := fun item member => by
            obtain ⟨line, _, rfl⟩ := List.mem_map.mp member
            rfl
          amounts := by
            apply List.ext_getElem
            · simp [sessionParams, openedOrder, draftOrder]
            · intro index first second
              simp [sessionParams, openedOrder, draftOrder, lineItem, orderLine]
          lines := charged }

/-- A lamp priced in euros, in the cart of a shop that sells in dollars. -/
def euroLamp : Market :=
  inCurrencies (fun _ => "EUR") { lampMarket with
    db := { lampMarket.db with
      carts := [{ token := 1, storeId := 1, currency := "USD", convertedOrderId := none, items := [⟨7, 1, 500⟩] }] } }

theorem euro_lamp_charged_in_dollars :
    ¬ ∀ config stripe slug dto draw answers market receipt,
      (checkout config stripe slug dto draw answers (Market.view market)).result = .ok receipt →
        ∀ order ∈ (checkout config stripe slug dto draw answers market.view).db.orders, order.id = receipt.orderId →
          ∀ line ∈ order.items, PricedIn market order.currency line := by
  intro always
  obtain ⟨id, variant, named, found, same⟩ := always destinationCharges openingStripe "lamps" ⟨1, none⟩ lampDraw
    lampAnswers euroLamp _ rfl _ (List.mem_singleton.mpr rfl) rfl _ (List.mem_singleton.mpr rfl)
  cases named
  cases found
  exact absurd same (by decide)

end Aicos.Properties
