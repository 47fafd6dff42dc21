import Aicos.Storefront.Checkout
import Aicos.Billing.Processor
import Mathlib.Logic.Function.Basic

namespace Aicos.Storefront

open Aicos.Commerce Aicos.Billing

/-! Carts, checkouts and payments of one tenant, next to each other.  A checkout
advances one transaction or one Stripe call at a time; a session stays open at
Stripe once it has been created, whatever became of the request. -/

abbrev RequestId := Nat

inductive CheckoutPhase where
  | priced (cart : PricedCart)
  | planned (plan : CheckoutPlan)
  | ordered (plan : CheckoutPlan) (orderId : OrderId)
  | opened (orderId : OrderId) (session : CheckoutSessionId) (intent : Option PaymentIntentId)
  | failing (orderId : OrderId)

structure Session where
  id : CheckoutSessionId
  orderId : OrderId
  cartToken : CartToken

/-- An order that a delivery turned PAID, with the units it took from stock. -/
structure PaidOrder where
  orderId : OrderId
  cartToken : Option CartToken
  items : List OrderItem
  oversold : List Shortfall

structure Shop where
  db : Db
  requests : RequestId → Option CheckoutPhase
  sessions : List Session
  paid : List PaidOrder

/-- What came back from `checkout.sessions.create`. -/
inductive SessionReply where
  | created (id : CheckoutSessionId) (intent : Option PaymentIntentId)
  /-- The session was created and the reply was lost. -/
  | lost (id : CheckoutSessionId)
  | refused

inductive ShopAction where
  | createCart (slug : String) (token : CartToken)
  | addItem (slug : String) (token : CartToken) (variantId : VariantId) (quantity : Option Nat)
  | setQuantity (slug : String) (token : CartToken) (variantId : VariantId) (quantity : Nat)
  | priceCart (request : RequestId) (configured : Bool) (slug : String) (dto : CreateCheckoutDto)
  | readConnect (request : RequestId) (feeBps : Int)
  | createOrder (request : RequestId) (id : OrderId) (firstItemId : OrderItemId) (now : Instant)
  | createSession (request : RequestId) (reply : SessionReply)
  | finish (request : RequestId)
  | deliver (session : CheckoutSessionObj) (paymentId : PaymentId) (now : Instant)

def Shop.enter (shop : Shop) (request : RequestId) (phase : Option CheckoutPhase) : Shop :=
  { shop with requests := Function.update shop.requests request phase }

def Shop.commit (shop : Shop) (body : Db → Tx Db) : Shop :=
  { shop with db := Commerce.commit body shop.db }

def Shop.opened (shop : Shop) (session : CheckoutSessionObj) : Bool :=
  shop.sessions.any fun known => known.id = session.id ∧
    session.metadata = some (sessionMetadata shop.db.tenantId known.orderId known.cartToken)

/-- A cuid no order has or had. -/
def Shop.fresh (shop : Shop) (id : OrderId) : Bool :=
  shop.db.orders.all (fun order => order.id ≠ id) ∧ shop.sessions.all fun session => session.orderId ≠ id

def Shop.deliver (shop : Shop) (session : CheckoutSessionObj) (paymentId : PaymentId) (now : Instant) : Shop :=
  if ¬ shop.opened session then shop
  else
    match onCheckoutCompleted session paymentId now shop.db with
    -- a unique column rejects the settlement
    | .error _ => shop
    | .ok (none, db) => { shop with db }
    | .ok (some confirmation, db) =>
        let orderId := (session.metadata.bind (·.orderId)).getD 0
        { shop with
          db
          paid := shop.paid ++ [{
            orderId
            cartToken := session.metadata.bind (·.cartToken)
            items := ((shop.db.findOrder orderId).map (·.items)).getD []
            oversold := confirmation.oversold }] }

def Shop.createSession (shop : Shop) (request : RequestId) (plan : CheckoutPlan) (orderId : OrderId) :
    SessionReply → Shop
  | .created id intent =>
      { shop.enter request (some (.opened orderId id intent)) with
        sessions := { id, orderId, cartToken := plan.priced.dto.token } :: shop.sessions }
  | .lost id =>
      { shop.enter request (some (.failing orderId)) with
        sessions := { id, orderId, cartToken := plan.priced.dto.token } :: shop.sessions }
  | .refused => shop.enter request (some (.failing orderId))

def Shop.step (shop : Shop) : ShopAction → Shop
  | .createCart slug token => shop.commit (Storefront.createCart slug token)
  | .addItem slug token variantId quantity => shop.commit (Storefront.addItem slug token variantId quantity)
  | .setQuantity slug token variantId quantity =>
      shop.commit (Storefront.setQuantity slug token variantId quantity)
  | .priceCart request configured slug dto =>
      match shop.requests request, Storefront.priceCart configured slug dto shop.db with
      | none, .ok cart => shop.enter request (some (.priced cart))
      | _, _ => shop
  | .readConnect request feeBps =>
      match shop.requests request with
      | some (.priced cart) => shop.enter request (some (.planned (planCheckout feeBps cart shop.db)))
      | _ => shop
  | .createOrder request id firstItemId now =>
      match shop.requests request with
      | some (.planned plan) =>
          if ¬ shop.fresh id then shop
          else
            match Storefront.createOrder plan id firstItemId now shop.db with
            | .ok db => { shop.enter request (some (.ordered plan id)) with db }
            | .error _ => shop.enter request none
      | _ => shop
  | .createSession request reply =>
      match shop.requests request with
      | some (.ordered plan orderId) => shop.createSession request plan orderId reply
      | _ => shop
  | .finish request =>
      match shop.requests request with
      | some (.opened orderId session intent) =>
          match recordSession orderId session intent shop.db with
          | .ok db => { shop.enter request none with db }
          -- the catch of the Stripe call covers this update as well
          | .error _ => shop.enter request (some (.failing orderId))
      | some (.failing orderId) => (shop.enter request none).commit (Db.deleteOrder orderId)
      | _ => shop
  | .deliver session paymentId now => shop.deliver session paymentId now

def Shop.start (db : Db) : Shop :=
  { db, requests := fun _ => none, sessions := [], paid := [] }

end Aicos.Storefront
