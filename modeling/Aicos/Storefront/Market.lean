import Aicos.Catalog.Requests
import Aicos.Storefront.Shop

namespace Aicos.Storefront

open Aicos.Catalog Aicos.Commerce Aicos.Data

/-! The catalog of the platform next to the carts and the orders of one tenant.
What the storefront reads of variants and stock are rows of the catalog. -/

/-- A variant with the product columns that the queries include. -/
def shelfVariant (platform : Platform) (tenant : TenantId) (variant : Variant) : Option ProductVariant :=
  (platform.products.visible tenant variant.productId).map fun product =>
    { id := variant.id
      product := { status := product.status, title := product.title, slug := product.slug }
      title := variant.title
      sku := variant.sku
      priceCents := variant.priceCents
      inventoryPolicy := variant.inventoryPolicy
      deletedAt := variant.deletedAt }

def shelf (platform : Platform) (tenant : TenantId) : List ProductVariant :=
  (platform.variants.rows.filter fun variant => variant.tenantId = tenant).filterMap (shelfVariant platform tenant)

/-- `listProducts` without a search engine: products with their live variants. -/
def listProducts (platform : Platform) (tenant : TenantId) : List (Catalog.Product × List Variant) :=
  (platform.products.rows.filter fun product =>
      product.tenantId = tenant ∧ product.status = .active ∧ product.deletedAt = none).map fun product =>
    (product, platform.variants.rows.filter fun variant =>
      variant.tenantId = tenant ∧ variant.productId = product.id ∧ variant.deletedAt = none)

def getProduct (platform : Platform) (tenant : TenantId) (productSlug : String) :
    Option (Catalog.Product × List Variant) :=
  (listProducts platform tenant).find? fun listed => listed.1.slug = productSlug

structure Market where
  platform : Platform
  db : Db

/-- The rows that a transaction of the tenant sees. -/
def Market.view (market : Market) : Db :=
  { market.db with
    variants := shelf market.platform market.db.tenantId
    stock := market.platform.stockOf market.db.tenantId }

structure CheckoutCall where
  configured : Bool
  slug : String
  dto : CreateCheckoutDto
  feeBps : Int
  id : OrderId
  firstItemId : OrderItemId
  now : Instant
  reply : SessionReply

namespace CheckoutCall

/-- `checkout` up to the DRAFT order. -/
def place (call : CheckoutCall) (db : Db) : Tx (Order × Db) := do
  let priced ← priceCart call.configured call.slug call.dto db
  let plan := planCheckout call.feeBps priced db
  let after ← createOrder plan call.id call.firstItemId call.now db
  pure (draftOrder plan call.id call.firstItemId (nextNumber (lastOrder db)) call.now, after)

/-- `checkout`: on any failure after the order the order is deleted again. -/
def run (call : CheckoutCall) (db : Db) : Tx Db := do
  let (_, placed) ← call.place db
  match call.reply with
  | .created session intent =>
      match recordSession call.id session intent placed with
      | .ok after => pure after
      | .error _ => pure (commit (Db.deleteOrder call.id) placed)
  | _ => pure (commit (Db.deleteOrder call.id) placed)

end CheckoutCall

inductive MarketAction where
  | catalog (action : CatalogAction)
  | createCart (slug : String) (token : CartToken)
  | addItem (slug : String) (token : CartToken) (variantId : VariantId) (quantity : Option Nat)
  | setQuantity (slug : String) (token : CartToken) (variantId : VariantId) (quantity : Nat)
  | checkout (call : CheckoutCall)

def Market.commit (market : Market) (body : Db → Tx Db) : Market :=
  { market with db := Commerce.commit body market.view }

def Market.step (nfkd : String → String) (market : Market) : MarketAction → Market
  | .catalog action => { market with platform := Catalog.step nfkd market.platform action }
  | .createCart slug token => market.commit (Storefront.createCart slug token)
  | .addItem slug token variantId quantity => market.commit (Storefront.addItem slug token variantId quantity)
  | .setQuantity slug token variantId quantity => market.commit (Storefront.setQuantity slug token variantId quantity)
  | .checkout call => market.commit call.run

section Shelf

variable {platform : Platform} {tenant : TenantId}

theorem mem_shelf {row : ProductVariant} (member : row ∈ shelf platform tenant) :
    ∃ variant product, platform.variants.find? row.id = some variant ∧ variant.tenantId = tenant ∧
      platform.products.visible tenant variant.productId = some product ∧ row.product.status = product.status := by
  obtain ⟨variant, present, joined⟩ := List.mem_filterMap.mp member
  obtain ⟨present, mine⟩ := List.mem_filter.mp present
  obtain ⟨product, shown, rfl⟩ := Option.map_eq_some_iff.mp joined
  exact ⟨variant, product, Table.find?_of_mem present, of_decide_eq_true mine, shown, rfl⟩

theorem findVariant_view {market : Market} {id : VariantId} {row : ProductVariant}
    (found : market.view.findVariant id = some row) :
    ∃ variant product, market.platform.variants.find? id = some variant ∧ variant.tenantId = market.db.tenantId ∧
      market.platform.products.visible market.db.tenantId variant.productId = some product ∧
      row.product.status = product.status := by
  have same : row.id = id := by simpa using List.find?_some found
  exact same ▸ mem_shelf (List.mem_of_find?_eq_some found)

/-- The storefront shows the variant under some product. -/
def Listed (platform : Platform) (tenant : TenantId) (id : VariantId) : Prop :=
  ∃ listed ∈ listProducts platform tenant, ∃ variant ∈ listed.2, variant.id = id

theorem listed_of_getProduct {productSlug : String} {listed : Catalog.Product × List Variant} {variant : Variant}
    (found : getProduct platform tenant productSlug = some listed) (member : variant ∈ listed.2) :
    Listed platform tenant variant.id :=
  ⟨listed, List.mem_of_find?_eq_some found, variant, member, rfl⟩

theorem listed_iff {id : VariantId} :
    Listed platform tenant id ↔ ∃ variant product, platform.variants.find? id = some variant ∧
      variant.tenantId = tenant ∧ variant.deletedAt = none ∧
      platform.products.visible tenant variant.productId = some product ∧
      product.status = .active ∧ product.deletedAt = none := by
  constructor
  · rintro ⟨_, member, variant, present, rfl⟩
    obtain ⟨product, there, rfl⟩ := List.mem_map.mp member
    obtain ⟨there, mine, active, live⟩ : product ∈ platform.products.rows ∧ product.tenantId = tenant ∧
        product.status = .active ∧ product.deletedAt = none := by simpa using List.mem_filter.mp there
    obtain ⟨present, its, same, kept⟩ : variant ∈ platform.variants.rows ∧ variant.tenantId = tenant ∧
        variant.productId = product.id ∧ variant.deletedAt = none := by simpa using List.mem_filter.mp present
    refine ⟨variant, product, Table.find?_of_mem present, its, kept, ?_, active, live⟩
    rw [same]
    exact Table.visible_eq_some.mpr ⟨Table.find?_of_mem there, mine⟩
  · intro given
    obtain ⟨variant, product, found, mine, kept, shown, active, live⟩ := given
    obtain ⟨its, owner⟩ := Table.visible_eq_some.mp shown
    obtain ⟨there, same⟩ := Table.find?_some its
    obtain ⟨present, rfl⟩ := Table.find?_some found
    refine ⟨_, List.mem_map_of_mem (List.mem_filter.mpr ⟨there, decide_eq_true ⟨owner, active, live⟩⟩), variant, ?_, rfl⟩
    exact List.mem_filter.mpr ⟨present, decide_eq_true ⟨mine, same.symm, kept⟩⟩

end Shelf

section Lines

variable {db : Db}

def Buyable (db : Db) (item : CartItem) : Prop :=
  ∃ variant, db.findVariant item.variantId = some variant ∧ variant.product.status = .active

theorem toLine_ok {item : CartItem} {line : CheckoutLine} (returned : toLine db item = .ok line) :
    Buyable db item ∧ line.variantId = item.variantId := by
  unfold toLine at returned
  split at returned
  · cases returned
  · rename_i variant found
    split at returned
    · cases returned
    · rename_i active
      cases returned
      exact ⟨⟨variant, found, by simpa using active⟩, rfl⟩

theorem toLine_of_buyable {item : CartItem} (buyable : Buyable db item) : ∃ line, toLine db item = .ok line := by
  obtain ⟨variant, found, active⟩ := buyable
  simp [toLine, found, active, pure, Except.pure]

theorem toLines_ok {items : List CartItem} {lines : List CheckoutLine} (returned : toLines db items = .ok lines) :
    (∀ item ∈ items, Buyable db item) ∧ lines.map (·.variantId) = items.map (·.variantId) := by
  induction items generalizing lines with
  | nil => cases returned; simp
  | cons item rest ih =>
      obtain ⟨line, first, returned⟩ := bind_eq_ok.mp returned
      obtain ⟨later, others, returned⟩ := bind_eq_ok.mp returned
      cases returned
      obtain ⟨buyable, same⟩ := toLine_ok first
      obtain ⟨all, rest⟩ := ih others
      exact ⟨by simpa using ⟨buyable, all⟩, by simp [same, rest]⟩

theorem toLines_of_buyable {items : List CartItem} (all : ∀ item ∈ items, Buyable db item) :
    ∃ lines, toLines db items = .ok lines := by
  induction items with
  | nil => exact ⟨[], rfl⟩
  | cons item rest ih =>
      obtain ⟨line, first⟩ := toLine_of_buyable (all item (by simp))
      obtain ⟨lines, others⟩ := ih fun other member => all other (by simp [member])
      exact ⟨line :: lines, by simp only [toLines, first, others]; rfl⟩

theorem priceCart_ok_iff {configured : Bool} {slug : String} {dto : CreateCheckoutDto} {priced : PricedCart} :
    priceCart configured slug dto db = .ok priced ↔
      configured = true ∧ ∃ store, db.publishedStore slug = some store ∧
        ∃ cart, db.findCart dto.token = some cart ∧ cart.convertedOrderId = none ∧ cart.items ≠ [] ∧
          ∃ lines, toLines db cart.items = .ok lines ∧ { store, dto, lines } = priced := by
  unfold priceCart
  cases configured with
  | false => simp [throw, throwThe, MonadExceptOf.throw]
  | true =>
      cases db.publishedStore slug with
      | none => simp [throw, throwThe, MonadExceptOf.throw]
      | some store =>
          cases db.findCart dto.token with
          | none => simp [throw, throwThe, MonadExceptOf.throw]
          | some cart =>
              by_cases converted : cart.convertedOrderId = none
              · by_cases empty : cart.items = []
                · simp [converted, empty, throw, throwThe, MonadExceptOf.throw]
                · simp [converted, empty, bind_eq_ok, pure, Except.pure]
              · simp [converted, throw, throwThe, MonadExceptOf.throw]

theorem draftOrder_variants (plan : CheckoutPlan) (id : OrderId) (firstItemId : OrderItemId) (number : Nat)
    (now : Instant) : (draftOrder plan id firstItemId number now).items.map (·.variantId) =
      plan.priced.lines.map fun line => some line.variantId := by
  apply List.ext_getElem
  · simp [draftOrder]
  · intro index first second
    simp [draftOrder, orderLine]

end Lines

end Aicos.Storefront
