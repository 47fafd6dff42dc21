import Aicos.Storefront.WebCart

namespace Aicos.Properties

open Aicos.Billing Aicos.Commerce Aicos.Data Aicos.Inventory Aicos.Storefront Aicos.Transition

/-! What a cart shows and what its checkout charges.  The lines of a cart keep the price of
the time they were added; `priceCart` reads the variants again. -/

/-- The cart lines have the prices of today. -/
def CurrentPrices (db : Db) : Prop :=
  ∀ cart ∈ db.carts, ∀ item ∈ cart.items, ∀ variant, db.findVariant item.variantId = some variant →
    item.unitPriceCents = variant.priceCents

/-- A line of the order is the line that was shown. -/
structure AsShown (line : CheckoutLine) (shown : CartLine) : Prop where
  variant : line.variantId = shown.variantId
  titles : line.productTitle = shown.productTitle ∧ line.variantTitle = shown.variantTitle ∧ line.sku = shown.sku
  amounts : line.quantity = shown.quantity ∧ line.unitPriceCents = shown.unitPriceCents ∧
    line.totalCents = shown.lineTotalCents

/-- The carts have no lines that they did not have before, and the variants are the same. -/
def KeepsPrices (before after : Db) : Prop :=
  after.variants = before.variants ∧ ∀ cart ∈ after.carts, ∀ item ∈ cart.items,
    ∃ old ∈ before.carts, ∃ line ∈ old.items, line.variantId = item.variantId ∧
      line.unitPriceCents = item.unitPriceCents

section Rows

variable {db after : Db} {token : CartToken} {slug : String} {variantId : VariantId}

theorem KeepsPrices.refl (db : Db) : KeepsPrices db db :=
  ⟨rfl, fun cart member item line => ⟨cart, member, item, line, rfl, rfl⟩⟩

theorem KeepsPrices.trans {middle : Db} (first : KeepsPrices db middle) (second : KeepsPrices middle after) :
    KeepsPrices db after := by
  refine ⟨second.1.trans first.1, fun cart member item line => ?_⟩
  obtain ⟨other, there, held, inside, named, priced⟩ := second.2 cart member item line
  obtain ⟨old, before, kept, within, same, cost⟩ := first.2 other there held inside
  exact ⟨old, before, kept, within, same.trans named, cost.trans priced⟩

theorem CurrentPrices.keep (current : CurrentPrices db) (keeps : KeepsPrices db after) : CurrentPrices after := by
  intro cart member item line variant found
  obtain ⟨old, there, before, inside, named, priced⟩ := keeps.2 cart member item line
  have found : db.findVariant item.variantId = some variant := by
    rw [← found, Db.findVariant, Db.findVariant, keeps.1]
  rw [← priced]
  exact current old there before inside variant (by rw [named]; exact found)

theorem keepsPrices_of_carts (variants : after.variants = db.variants) (carts : after.carts = db.carts) :
    KeepsPrices db after := by
  refine ⟨variants, fun cart member item line => ?_⟩
  rw [carts] at member
  exact ⟨cart, member, item, line, rfl, rfl⟩

theorem createCart_keepsPrices (created : createCart slug token db = .ok after) : KeepsPrices db after := by
  obtain ⟨store, _, created⟩ := bind_eq_ok.mp created
  obtain ⟨_, rfl⟩ := Db.createCart_ok created
  refine ⟨rfl, fun cart member item line => ?_⟩
  cases List.mem_append.mp member with
  | inl old => exact ⟨cart, old, item, line, rfl, rfl⟩
  | inr new =>
      obtain rfl := List.mem_singleton.mp new
      cases line

theorem updateCart_keepsPrices {change : Cart → Cart}
    (lines : ∀ cart, ∀ item ∈ (change cart).items, ∃ line ∈ cart.items, line.variantId = item.variantId ∧
      line.unitPriceCents = item.unitPriceCents) : KeepsPrices db (db.updateCart token change) := by
  refine ⟨rfl, fun cart member item line => ?_⟩
  obtain ⟨old, there, rfl⟩ := mem_updateWhere.mp member
  split at line
  · obtain ⟨before, inside, same⟩ := lines old item line
    exact ⟨old, there, before, inside, same⟩
  · exact ⟨old, there, item, line, rfl, rfl⟩

theorem setQuantity_keepsPrices {quantity : Nat} (set : setQuantity slug token variantId quantity db = .ok after) :
    KeepsPrices db after := by
  obtain ⟨store, _, set⟩ := bind_eq_ok.mp set
  obtain ⟨cart, _, set⟩ := bind_eq_ok.mp set
  split at set
  · cases set
  · split at set
    · cases set
      exact updateCart_keepsPrices fun cart item line => ⟨item, List.mem_of_mem_filter line, rfl, rfl⟩
    · obtain ⟨variant, _, set⟩ := bind_eq_ok.mp set
      obtain ⟨_, _, set⟩ := bind_eq_ok.mp set
      cases set
      refine updateCart_keepsPrices fun cart item line => ?_
      obtain ⟨old, there, rfl⟩ := mem_updateWhere.mp line
      exact ⟨old, there, by split <;> rfl, by split <;> rfl⟩

/-- A line that is added or changed gets the price of its variant. -/
theorem addItem_currentPrices {quantity : Option Nat} (keyed : (db.variants.map (·.id)).Nodup)
    (current : CurrentPrices db) (added : addItem slug token variantId quantity db = .ok after) :
    CurrentPrices after := by
  obtain ⟨store, _, added⟩ := bind_eq_ok.mp added
  obtain ⟨cart, _, added⟩ := bind_eq_ok.mp added
  obtain ⟨variant, sold, added⟩ := bind_eq_ok.mp added
  have price : db.findVariant variantId = some variant := by
    unfold purchasable at sold
    split at sold
    · cases sold
    · rename_i row found
      split at sold
      · cases sold
      · cases sold
        have named := List.find?_some found
        simp only [decide_eq_true_eq] at named
        rw [← named.1]
        exact find?_of_key keyed (List.mem_of_find?_eq_some found)
  have put {change : Cart → Cart} (lines : ∀ cart, ∀ item ∈ (change cart).items,
      (item.variantId = variantId ∧ item.unitPriceCents = variant.priceCents) ∨ item ∈ cart.items) :
      CurrentPrices (db.updateCart token change) := by
    intro cart member item line found there
    obtain ⟨old, inside, rfl⟩ := mem_updateWhere.mp member
    have there : db.findVariant item.variantId = some found := there
    split at line
    · obtain ⟨named, priced⟩ | kept := lines old item line
      · rw [named, price] at there
        cases there
        exact priced
      · exact current old inside item kept found there
    · exact current old inside item line found there
  split at added
  · obtain ⟨_, _, added⟩ := bind_eq_ok.mp added
    cases added
    refine put fun cart item line => ?_
    obtain ⟨old, inside, rfl⟩ := mem_updateWhere.mp line
    by_cases mine : old.variantId = variantId
    · exact .inl (by simp [mine])
    · exact .inr (by simpa [mine] using inside)
  · obtain ⟨_, _, added⟩ := bind_eq_ok.mp added
    cases added
    refine put fun cart item line => ?_
    cases List.mem_append.mp line with
    | inl old => exact .inr old
    | inr new =>
        obtain rfl := List.mem_singleton.mp new
        exact .inl ⟨rfl, rfl⟩

theorem updateOrder_keepsPrices {id : OrderId} {change : Order → Order} (updated : db.updateOrder id change = .ok after) :
    KeepsPrices db after := by
  obtain ⟨_, rfl⟩ := Db.updateOrder_ok updated
  exact keepsPrices_of_carts rfl rfl

theorem onCheckoutCompleted_keepsPrices {session : CheckoutSessionObj} {id : PaymentId} {now : Instant}
    {result : Option Confirmation} (handled : onCheckoutCompleted session id now db = .ok (result, after)) :
    KeepsPrices db after := by
  obtain ⟨_, rfl⟩ | ⟨metadata, order, _, _, _, _, _, _, settled⟩ := onCheckoutCompleted_ok handled
  · exact KeepsPrices.refl after
  · obtain ⟨_, _, _, _, rfl⟩ := settle_ok settled
    refine ⟨rfl, fun cart member item line => ?_⟩
    change cart ∈ settledCarts metadata.cartToken order.id db.carts at member
    unfold settledCarts at member
    split at member
    · exact ⟨cart, member, item, line, rfl, rfl⟩
    · obtain ⟨old, there, rfl⟩ := mem_updateWhere.mp member
      exact ⟨old, there, item, by split at line <;> exact line, rfl, rfl⟩

end Rows

/-- The rows under the actions of a shop: no price changes, so what a cart keeps stays current. -/
structure Steady (variants : List ProductVariant) (shop : Shop) : Prop where
  variants : shop.db.variants = variants
  current : CurrentPrices shop.db

section Steps

variable {variants : List ProductVariant} {shop : Shop}

theorem Steady.keep {after : Shop} (steady : Steady variants shop) (keeps : KeepsPrices shop.db after.db) :
    Steady variants after :=
  ⟨keeps.1.trans steady.variants, steady.current.keep keeps⟩

theorem keepsPrices_commit {body : Db → Tx Db} (keeps : ∀ after, body shop.db = .ok after → KeepsPrices shop.db after) :
    KeepsPrices shop.db (shop.commit body).db := by
  show KeepsPrices shop.db (Commerce.commit body shop.db)
  unfold Commerce.commit
  cases returned : body shop.db with
  | ok after => exact keeps after returned
  | error _ => exact KeepsPrices.refl _

theorem deliver_keepsPrices (session : CheckoutSessionObj) (id : PaymentId) (now : Instant) :
    KeepsPrices shop.db (shop.deliver session id now).db := by
  unfold Shop.deliver
  split
  · exact KeepsPrices.refl _
  · split
    · exact KeepsPrices.refl _
    · rename_i settled
      exact onCheckoutCompleted_keepsPrices settled
    · rename_i settled
      exact onCheckoutCompleted_keepsPrices settled

theorem Steady.step (keyed : (variants.map (·.id)).Nodup) (steady : Steady variants shop) (action : ShopAction) :
    Steady variants (shop.step action) := by
  cases action with
  | createCart slug token => exact steady.keep (keepsPrices_commit fun after created => createCart_keepsPrices created)
  | addItem slug token variantId quantity =>
      have keyed : (shop.db.variants.map (·.id)).Nodup := by rw [steady.variants]; exact keyed
      simp only [Shop.step, Shop.commit, Commerce.commit]
      cases added : Storefront.addItem slug token variantId quantity shop.db with
      | error failure => exact steady
      | ok after =>
          obtain ⟨change, moved, _⟩ := addItem_ok added
          have same : after.variants = shop.db.variants := by rw [moved]; rfl
          exact ⟨same.trans steady.variants, addItem_currentPrices keyed steady.current added⟩
  | setQuantity slug token variantId quantity =>
      exact steady.keep (keepsPrices_commit fun after set => setQuantity_keepsPrices set)
  | priceCart request configured slug dto =>
      simp only [Shop.step]
      split <;> exact ⟨steady.variants, steady.current⟩
  | readConnect request feeBps =>
      simp only [Shop.step]
      split <;> exact ⟨steady.variants, steady.current⟩
  | createOrder request id firstItemId now =>
      simp only [Shop.step]
      split
      · split
        · exact steady
        · split
          · rename_i created
            obtain ⟨_, _, rfl⟩ := Db.createOrder_ok_iff.mp created
            exact steady.keep (keepsPrices_of_carts rfl rfl)
          · exact ⟨steady.variants, steady.current⟩
      · exact steady
  | createSession request reply =>
      simp only [Shop.step]
      split
      · cases reply <;> exact ⟨steady.variants, steady.current⟩
      · exact steady
  | finish request =>
      simp only [Shop.step]
      split
      · split
        · rename_i recorded
          exact steady.keep (updateOrder_keepsPrices recorded)
        · exact ⟨steady.variants, steady.current⟩
      · refine steady.keep (keepsPrices_commit fun after deleted => ?_)
        obtain ⟨_, rfl⟩ := Db.deleteOrder_ok deleted
        exact keepsPrices_of_carts rfl rfl
      · exact steady
  | deliver session id now => exact steady.keep (deliver_keepsPrices session id now)

end Steps

section Totals

variable {db : Db}

/-- Line by line, what is charged is what is shown, at the prices of today. -/
theorem toLines_as_shown {items : List CartItem} {lines : List CheckoutLine} {shown : List CartLine}
    (current : ∀ item ∈ items, ∀ variant, db.findVariant item.variantId = some variant →
      item.unitPriceCents = variant.priceCents)
    (charged : toLines db items = .ok lines) (viewed : cartLines db items = .ok shown) :
    List.Forall₂ AsShown lines shown := by
  induction items generalizing lines shown with
  | nil =>
      cases charged
      cases viewed
      exact .nil
  | cons item rest ih =>
      obtain ⟨line, first, charged⟩ := bind_eq_ok.mp charged
      obtain ⟨others, later, charged⟩ := bind_eq_ok.mp charged
      obtain ⟨seen, top, viewed⟩ := bind_eq_ok.mp viewed
      obtain ⟨below, under, viewed⟩ := bind_eq_ok.mp viewed
      cases charged
      cases viewed
      refine .cons ?_ (ih (fun other member => current other (List.mem_cons_of_mem _ member)) later under)
      unfold toLine at first
      unfold cartLine at top
      split at first
      · cases first
      · rename_i variant found
        rw [found] at top
        split at first
        · cases first
        · cases first
          cases top
          have price := current item List.mem_cons_self variant found
          exact ⟨rfl, ⟨rfl, rfl, rfl⟩, rfl, price.symm, by rw [price]⟩

theorem sum_as_shown {lines : List CheckoutLine} {shown : List CartLine} (same : List.Forall₂ AsShown lines shown) :
    (lines.map (·.totalCents)).sum = (shown.map (·.lineTotalCents)).sum := by
  induction same with
  | nil => rfl
  | cons line _ ih => rw [List.map_cons, List.map_cons, List.sum_cons, List.sum_cons, line.amounts.2.2, ih]

/-- The checkout of a cart charges what the cart shows. -/
def ChargesAsShown (db : Db) : Prop :=
  ∀ configured slug dto priced view, priceCart configured slug dto db = .ok priced →
    viewCart dto.token db = .ok view →
      List.Forall₂ AsShown priced.lines view.items ∧ priced.subtotalCents = view.subtotalCents ∧
        ∀ feeBps id firstItemId number now,
          (draftOrder (planCheckout feeBps priced db) id firstItemId number now).totalCents = view.subtotalCents

theorem CurrentPrices.charges (current : CurrentPrices db) : ChargesAsShown db := by
  intro configured slug dto priced view returned viewed
  unfold priceCart at returned
  split at returned
  · cases returned
  · split at returned
    · cases returned
    · split at returned
      · cases returned
      · rename_i cart found
        split at returned
        · cases returned
        · split at returned
          · cases returned
          · obtain ⟨lines, charged, returned⟩ := bind_eq_ok.mp returned
            cases returned
            unfold viewCart at viewed
            rw [found] at viewed
            obtain ⟨shown, seen, viewed⟩ := bind_eq_ok.mp viewed
            cases viewed
            have same := toLines_as_shown (current cart (List.mem_of_find?_eq_some found)) charged seen
            exact ⟨same, sum_as_shown same, fun _ _ _ _ _ => sum_as_shown same⟩

end Totals

/-- Carts and checkouts of a shop whose prices stand: in every state the order that a
checkout drafts has the lines, the prices and the total that the cart showed. -/
theorem checkout_charges_the_shown_total (db : Db) (keyed : (db.variants.map (·.id)).Nodup) (current : CurrentPrices db)
    (trace : List ShopAction) :
    Visits Shop.step (fun shop => ChargesAsShown shop.db) (Shop.start db) trace := by
  have start : Steady db.variants (Shop.start db) := ⟨rfl, current⟩
  have visits : Visits Shop.step (Steady db.variants) (Shop.start db) trace :=
    visits_of_step (fun _ action steady => steady.step keyed action) start trace
  exact visits.mono fun shop steady => steady.current.charges

/-- A cart with two lamps in it. -/
def twoLampsInCart : Db where
  tenantId := 1
  stores := [{ id := 1, slug := "lamps", name := "Lamps", status := .published, currency := "USD" }]
  variants := [{
    id := 7, product := { status := .active, title := "Lamp", slug := "lamp" }, title := "Default", sku := none
    priceCents := 500, inventoryPolicy := .continue, deletedAt := none }]
  stock := { items := [], movements := [] }
  carts := [{
    token := 1, storeId := 1, currency := "USD", convertedOrderId := none
    items := [{ variantId := 7, quantity := 2, unitPriceCents := 500 }] }]
  orders := []
  payments := []
  refunds := []
  returns := []
  connectAccount := none

theorem two_lamps_are_charged_as_shown :
    Visits Shop.step (fun shop => ChargesAsShown shop.db) (Shop.start twoLampsInCart)
      [.addItem "lamps" 1 7 (some 3), .priceCart 1 true "lamps" ⟨1, none⟩, .readConnect 1 100] :=
  checkout_charges_the_shown_total twoLampsInCart (by decide)
    (by
      intro cart member item line variant found
      obtain rfl := List.mem_singleton.mp member
      obtain rfl := List.mem_singleton.mp line
      cases found
      rfl)
    [.addItem "lamps" 1 7 (some 3), .priceCart 1 true "lamps" ⟨1, none⟩, .readConnect 1 100]

end Aicos.Properties
