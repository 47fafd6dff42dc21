import Aicos.Storefront.Market
import Aicos.Transition.Run

namespace Aicos.Properties

open Aicos.Catalog Aicos.Data Aicos.Storefront Aicos.Transition
open Aicos.Commerce hiding Product

/-! What a checkout sells.  It reads the status of a product, but neither of the
two columns that a removal sets. -/

/-- The variant is there and so is its product, which is ACTIVE; neither is removed. -/
def OnShow (platform : Platform) (id : VariantId) : Prop :=
  ∃ variant product, platform.variants.find? id = some variant ∧ variant.deletedAt = none ∧
    platform.products.find? variant.productId = some product ∧ product.status = .active ∧ product.deletedAt = none

/-- `removeVariant` has met the variant, or `remove` its product. -/
def Removed (platform : Platform) (id : VariantId) : Prop :=
  ∃ variant, platform.variants.find? id = some variant ∧
    (variant.deletedAt ≠ none ∨
      ∃ product, platform.products.find? variant.productId = some product ∧ product.deletedAt ≠ none)

/-- Every line of the order that the action creates is on show. -/
def SellsShown (market : Market) : MarketAction → Prop
  | .checkout call => ∀ order after, call.place market.view = .ok (order, after) →
      ∀ item ∈ order.items, ∃ id, item.variantId = some id ∧ OnShow market.platform id
  | _ => True

/-- The checkout meets a published store, an open cart that is not empty and whose
products are ACTIVE, and an order number that is free. -/
structure GoesThrough (call : CheckoutCall) (db : Db) (cart : Cart) : Prop where
  configured : call.configured = true
  store : (db.publishedStore call.slug).isSome = true
  found : db.findCart call.dto.token = some cart
  unconverted : cart.convertedOrderId = none
  filled : cart.items ≠ []
  buyable : ∀ item ∈ cart.items, Buyable db item
  id : ∀ order ∈ db.orders, order.id ≠ call.id
  number : ∀ order ∈ db.orders, order.number ≠ nextNumber (lastOrder db)

/-- A cart that goes through a checkout holds nothing that has been removed. -/
def CartsNothingRemoved (market : Market) : MarketAction → Prop
  | .checkout call => ∀ cart, GoesThrough call market.view cart →
      ∀ item ∈ cart.items, ¬ Removed market.platform item.variantId
  | _ => True

section Checkout

variable {call : CheckoutCall} {db : Db}

theorem place_ok {order : Order} {after : Db} (placed : call.place db = .ok (order, after)) :
    ∃ cart, GoesThrough call db cart ∧
      order.items.map (·.variantId) = cart.items.map fun item => some item.variantId := by
  obtain ⟨priced, read, placed⟩ := bind_eq_ok.mp placed
  obtain ⟨rows, created, placed⟩ := bind_eq_ok.mp placed
  cases placed
  obtain ⟨configured, store, published, cart, found, unconverted, filled, lines, returned, rfl⟩ :=
    priceCart_ok_iff.mp read
  obtain ⟨ids, numbers, _⟩ := Db.createOrder_ok_iff.mp created
  obtain ⟨buyable, same⟩ := toLines_ok returned
  refine ⟨cart, ⟨configured, Option.isSome_iff_exists.mpr ⟨store, published⟩, found, unconverted, filled, buyable,
    ids, numbers⟩, ?_⟩
  have same := congrArg (List.map some) same
  rw [List.map_map, List.map_map] at same
  rw [draftOrder_variants]
  exact same

theorem GoesThrough.place {cart : Cart} (goes : GoesThrough call db cart) :
    ∃ order after, call.place db = .ok (order, after) := by
  obtain ⟨store, published⟩ := Option.isSome_iff_exists.mp goes.store
  obtain ⟨lines, returned⟩ := toLines_of_buyable goes.buyable
  have read : priceCart call.configured call.slug call.dto db = .ok { store, dto := call.dto, lines } :=
    priceCart_ok_iff.mpr ⟨goes.configured, store, published, cart, goes.found, goes.unconverted, goes.filled, lines,
      returned, rfl⟩
  have created : createOrder (planCheckout call.feeBps { store, dto := call.dto, lines } db) call.id
      call.firstItemId call.now db = .ok _ :=
    Db.createOrder_ok_iff.mpr ⟨goes.id, goes.number, rfl⟩
  exact ⟨_, _, bind_eq_ok.mpr ⟨_, read, bind_eq_ok.mpr ⟨_, created, rfl⟩⟩⟩

end Checkout

theorem onShow_iff {market : Market} {item : CartItem} (buyable : Buyable market.view item) :
    OnShow market.platform item.variantId ↔ ¬ Removed market.platform item.variantId := by
  obtain ⟨row, found, active⟩ := buyable
  obtain ⟨variant, product, there, _, shown, status⟩ := findVariant_view found
  have its := (Table.visible_eq_some.mp shown).1
  rw [status] at active
  constructor
  · rintro ⟨_, _, same, live, also, _, kept⟩ ⟨_, again, removed⟩
    obtain rfl := Option.some.inj (there.symm.trans same)
    obtain rfl := Option.some.inj (its.symm.trans also)
    obtain rfl := Option.some.inj (there.symm.trans again)
    rcases removed with gone | ⟨other, met, gone⟩
    · exact gone live
    · obtain rfl := Option.some.inj (its.symm.trans met)
      exact gone kept
  · intro kept
    refine ⟨variant, product, there, ?_, its, active, ?_⟩
    · by_contra gone
      exact kept ⟨variant, there, .inl gone⟩
    · by_contra gone
      exact kept ⟨variant, there, .inr ⟨product, its, gone⟩⟩

/-- For a line that a checkout accepts, to be on show is to be shown by the storefront. -/
theorem onShow_iff_listed {market : Market} {item : CartItem} (buyable : Buyable market.view item) :
    OnShow market.platform item.variantId ↔ Listed market.platform market.db.tenantId item.variantId := by
  obtain ⟨row, found, _⟩ := buyable
  obtain ⟨variant, product, there, mine, shown, _⟩ := findVariant_view found
  rw [listed_iff]
  constructor
  · intro given
    obtain ⟨_, other, same, live, also, active, kept⟩ := given
    obtain rfl := Option.some.inj (there.symm.trans same)
    obtain rfl := Option.some.inj ((Table.visible_eq_some.mp shown).1.symm.trans also)
    exact ⟨variant, product, there, mine, live, shown, active, kept⟩
  · intro given
    obtain ⟨variant, product, found, _, live, seen, active, kept⟩ := given
    exact ⟨variant, product, found, live, (Table.visible_eq_some.mp seen).1, active, kept⟩

/-- A checkout sells what is on show exactly where its cart holds nothing removed. -/
theorem sellsShown_iff (market : Market) (action : MarketAction) :
    SellsShown market action ↔ CartsNothingRemoved market action := by
  cases action with
  | checkout call =>
      constructor
      · intro sells cart goes item member
        obtain ⟨order, after, placed⟩ := goes.place
        obtain ⟨other, again, same⟩ := place_ok placed
        obtain rfl : cart = other := Option.some.inj (goes.found.symm.trans again.found)
        have line : some item.variantId ∈ order.items.map (·.variantId) := by
          rw [same]
          exact List.mem_map_of_mem member
        obtain ⟨row, present, variant⟩ := List.mem_map.mp line
        obtain ⟨id, named, shown⟩ := sells order after placed row present
        obtain rfl : item.variantId = id := Option.some.inj (variant.symm.trans named)
        exact (onShow_iff (goes.buyable item member)).mp shown
      · intro kept order after placed row member
        obtain ⟨cart, goes, same⟩ := place_ok placed
        have line : row.variantId ∈ cart.items.map fun item => some item.variantId := by
          rw [← same]
          exact List.mem_map_of_mem member
        obtain ⟨item, present, variant⟩ := List.mem_map.mp line
        exact ⟨item.variantId, variant.symm, (onShow_iff (goes.buyable item present)).mpr (kept cart goes item present)⟩
  | _ => exact Iff.rfl

/-- Every order of a run sells what is on show at that moment exactly when no
checkout of the run goes through with a cart that holds something removed. -/
theorem sells_shown_iff_carts_nothing_removed (nfkd : String → String) (start : Market) (trace : List MarketAction) :
    Along (Market.step nfkd) SellsShown start trace ↔ Along (Market.step nfkd) CartsNothingRemoved start trace :=
  along_congr sellsShown_iff start trace

/-- A published shop with one product on show and an empty cart. -/
def lampMarket : Market where
  platform := {
    stores := .empty
    addresses := .empty
    media := .empty
    brands := .empty
    categories := .empty
    products := Table.empty.insert {
      id := 3, tenantId := 1, storeId := none, brandId := none, title := "Lamp", slug := "lamp", description := none
      type := .physical, status := .active, seoTitle := none, seoDescription := none, primaryImageId := none
      searchKeywords := none, publishedAt := some 0, deletedAt := none }
    variants := Table.empty.insert {
      id := 7, tenantId := 1, productId := 3, sku := none, barcode := none, title := "Default", priceCents := 500
      compareAtCents := none, costCents := none, currency := "USD", weightUnit := .g, inventoryPolicy := .continue
      taxable := true, position := 0, deletedAt := none }
    images := .empty
    locations := .empty
    items := .empty
    movements := [] }
  db := {
    tenantId := 1
    stores := [{ id := 1, slug := "lamps", name := "Lamps", status := .published, currency := "USD" }]
    variants := []
    stock := { items := [], movements := [] }
    carts := [{ token := 1, storeId := 1, currency := "USD", convertedOrderId := none, items := [] }]
    orders := []
    payments := []
    refunds := []
    returns := []
    connectAccount := none }

def lampCheckout : CheckoutCall where
  configured := true
  slug := "lamps"
  dto := { token := 1, email := none }
  feeBps := 0
  id := 1
  firstItemId := 1
  now := 2
  reply := .created 1 none

/-- The variant is removed while it lies in the cart. -/
def removedFromUnderCart : List MarketAction :=
  [.addItem "lamps" 1 7 (some 1), .catalog { tenant := 1, request := .removeVariant 7 1 }, .checkout lampCheckout]

theorem removed_variant_sold :
    ¬ ∀ nfkd start trace, Along (Market.step nfkd) SellsShown start trace := by
  intro always
  have sells := (always id lampMarket removedFromUnderCart).2.2.1
  obtain ⟨variantId, named, variant, product, found, live, _⟩ := sells _ _ rfl _ (List.mem_singleton.mpr rfl)
  cases named
  cases found
  cases live

end Aicos.Properties
