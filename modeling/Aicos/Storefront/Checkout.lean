import Aicos.Storefront.Cart
import Aicos.Billing.Events
import Mathlib.Data.List.Sort

namespace Aicos.Storefront

open Aicos.Commerce Aicos.Billing Aicos.Data

/-! `CheckoutService.checkout`, cut at its transactions and its Stripe call: read
the cart, read the connected account, create the DRAFT order, open the session,
then update the order or delete it again. -/

structure CreateCheckoutDto where
  token : CartToken
  email : Option String
deriving DecidableEq

structure CheckoutLine where
  variantId : VariantId
  productTitle : String
  variantTitle : String
  sku : Option String
  quantity : Nat
  unitPriceCents : Int
  totalCents : Int
deriving DecidableEq

structure PricedCart where
  store : Store
  dto : CreateCheckoutDto
  lines : List CheckoutLine
deriving DecidableEq

def PricedCart.subtotalCents (priced : PricedCart) : Int :=
  (priced.lines.map (·.totalCents)).sum

structure CheckoutPlan where
  priced : PricedCart
  useConnect : Bool
  applicationFeeCents : Int
  destination : Option StripeAccountId
deriving DecidableEq

def toLine (db : Db) (item : CartItem) : Tx CheckoutLine :=
  match db.findVariant item.variantId with
  | none => throw (.http (.badRequest "\"An item\" is no longer available"))
  | some variant =>
      if variant.product.status ≠ .active then
        throw (.http (.badRequest s!"\"{variant.product.title}\" is no longer available"))
      else pure {
        variantId := item.variantId
        productTitle := variant.product.title
        variantTitle := variant.title
        sku := variant.sku
        quantity := item.quantity
        unitPriceCents := variant.priceCents
        totalCents := variant.priceCents * (item.quantity : Int) }

def toLines (db : Db) : List CartItem → Tx (List CheckoutLine)
  | [] => pure []
  | item :: items => do
      let line ← toLine db item
      let lines ← toLines db items
      pure (line :: lines)

/-- The cart, re-priced from the live variants. -/
def priceCart (configured : Bool) (slug : String) (dto : CreateCheckoutDto) (db : Db) :
    Tx PricedCart :=
  if ¬ configured then throw (.http (.serviceUnavailable "Stripe is not configured"))
  else
    match db.publishedStore slug with
    | none => throw (.http (.notFound "Store not found"))
    | some store =>
        match db.findCart dto.token with
        | none => throw (.http (.notFound "Cart not found"))
        | some cart =>
            if cart.convertedOrderId ≠ none then throw (.http (.badRequest "Cart already checked out"))
            else if cart.items = [] then throw (.http (.badRequest "Cart is empty"))
            else do
              let lines ← toLines db cart.items
              pure { store, dto, lines }

/-- Basis points of the subtotal, rounded half up. -/
def platformFeeCents (subtotalCents bps : Int) : Int :=
  if subtotalCents ≤ 0 ∨ bps ≤ 0 then 0 else (2 * subtotalCents * bps + 10000) / 20000

/-- The platform fee is taken on a destination charge only. -/
def planCheckout (feeBps : Int) (priced : PricedCart) (db : Db) : CheckoutPlan :=
  let useConnect := db.connectAccount.any (·.chargesEnabled)
  { priced
    useConnect
    applicationFeeCents := if useConnect then platformFeeCents priced.subtotalCents feeBps else 0
    destination := db.connectAccount.map (·.stripeAccountId) }

/-- `order.findFirst({ orderBy: { createdAt: 'desc' } })`. -/
def lastOrder (db : Db) : Option Order :=
  (db.orders.insertionSort fun first second => first.createdAt ≥ second.createdAt).head?

def nextNumber (last : Option Order) : Nat :=
  match last with
  | none => 1001
  | some order => (if order.number = 0 then 1000 else order.number) + 1

def orderLine (firstItemId : OrderItemId) (index : Nat) (line : CheckoutLine) : OrderItem where
  id := firstItemId + index
  variantId := some line.variantId
  productTitle := line.productTitle
  variantTitle := some line.variantTitle
  sku := line.sku
  quantity := line.quantity
  unitPriceCents := line.unitPriceCents
  totalCents := line.totalCents

/-- The DRAFT order; `id` and the item ids from `firstItemId` on are its cuids. -/
def draftOrder (plan : CheckoutPlan) (id : OrderId) (firstItemId : OrderItemId) (number : Nat)
    (now : Instant) : Order where
  id := id
  storeId := plan.priced.store.id
  number := number
  status := .draft
  financialStatus := .unpaid
  currency := plan.priced.store.currency
  subtotalCents := plan.priced.subtotalCents
  taxCents := 0
  totalCents := plan.priced.subtotalCents
  applicationFeeCents := plan.applicationFeeCents
  shippingAddress := none
  billingAddress := none
  email := plan.priced.dto.email
  stripeCheckoutSessionId := none
  stripePaymentIntentId := none
  placedAt := none
  createdAt := now
  items := plan.priced.lines.mapIdx (orderLine firstItemId)

def createOrder (plan : CheckoutPlan) (id : OrderId) (firstItemId : OrderItemId) (now : Instant)
    (db : Db) : Tx Db :=
  db.createOrder (draftOrder plan id firstItemId (nextNumber (lastOrder db)) now)

/-- The metadata of the session and of its payment intent. -/
def sessionMetadata (tenantId : TenantId) (orderId : OrderId) (cartToken : CartToken) : Metadata where
  tenantId := some tenantId
  orderId := some orderId
  cartToken := some cartToken

/-- The order of an open session waits for its payment. -/
def openedOrder (session : CheckoutSessionId) (intent : Option PaymentIntentId) (order : Order) : Order :=
  { order with
    stripeCheckoutSessionId := some session
    stripePaymentIntentId := intent
    status := .pending }

def recordSession (orderId : OrderId) (session : CheckoutSessionId) (intent : Option PaymentIntentId)
    (db : Db) : Tx Db :=
  db.updateOrder orderId (openedOrder session intent)

end Aicos.Storefront
