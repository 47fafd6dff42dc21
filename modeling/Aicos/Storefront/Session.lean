import Aicos.Storefront.Shop
import Aicos.Transition.Backlog

namespace Aicos.Storefront

open Aicos.Commerce Aicos.Billing Aicos.Data Aicos.Transition

/-! `CheckoutService.checkout` with no other request beside it: the parameters of its
session, and the whole of a request over the outcomes of its last three calls. -/

structure CheckoutConfig where
  isApiConfigured : Bool
  platformFeeBps : Option Int
  checkoutSuccessUrl : String
  checkoutCancelUrl : String
  taxEnabled : Option Bool
  shippingCountries : Option (List String)
  toLowerCase : String → String

def CheckoutConfig.feeBps (config : CheckoutConfig) : Int :=
  config.platformFeeBps.getD 0

structure SessionLineItem where
  quantity : Nat
  currency : String
  unitAmount : Int
  name : String
  sku : Option String
deriving DecidableEq

structure SessionParams where
  mode : String
  lineItems : List SessionLineItem
  successUrl : String
  cancelUrl : String
  allowedCountries : List String
  metadata : Metadata
  orderNumber : String
  /-- `payment_intent_data`: the fee and the account the payment goes to. -/
  applicationFeeAmount : Option Int
  destination : Option StripeAccountId
  customerEmail : Option String
  automaticTax : Bool
deriving DecidableEq

structure StripeSession where
  id : CheckoutSessionId
  paymentIntent : Option PaymentIntentId
  url : Option String
deriving DecidableEq

/-- How `checkout.sessions.create` ends: with a session, or with an error, whether or not
a session was created. -/
inductive SessionAnswer where
  | created (session : StripeSession)
  | threw (message : Option String)
deriving DecidableEq

section Params

variable (config : CheckoutConfig)

def lineItem (currency : String) (line : CheckoutLine) : SessionLineItem where
  quantity := line.quantity
  currency := config.toLowerCase currency
  unitAmount := line.unitPriceCents
  name := if line.variantTitle = "" then line.productTitle else s!"{line.productTitle} — {line.variantTitle}"
  sku := line.sku.filter fun sku => sku ≠ ""

def sessionParams (tenantId : TenantId) (plan : CheckoutPlan) (orderId : OrderId) (number : Nat) : SessionParams where
  mode := "payment"
  lineItems := plan.priced.lines.map (lineItem config plan.priced.store.currency)
  successUrl := s!"{config.checkoutSuccessUrl}?order={orderId}&session_id=" ++ "\x7bCHECKOUT_SESSION_ID\x7d"
  cancelUrl := s!"{config.checkoutCancelUrl}?order={orderId}"
  allowedCountries := config.shippingCountries.getD ["US"]
  metadata := sessionMetadata tenantId orderId plan.priced.dto.token
  orderNumber := toString number
  applicationFeeAmount := if plan.useConnect ∧ plan.destination.isSome then some plan.applicationFeeCents else none
  destination := if plan.useConnect then plan.destination else none
  customerEmail := plan.priced.dto.email.filter fun email => email ≠ ""
  automaticTax := config.taxEnabled.getD false

end Params

/-- What a request draws: the cuid of its order, those of its items from `firstItemId` on, and the time. -/
structure CheckoutDraw where
  orderId : OrderId
  firstItemId : OrderItemId
  now : Instant

/-- How the two calls after the Stripe call end, and the text of what is thrown on the way. -/
structure CheckoutAnswers where
  recorded : Answer
  deleted : Answer
  message : Option String

structure CheckoutResult where
  orderId : OrderId
  orderNumber : String
  sessionId : CheckoutSessionId
  url : Option String
deriving DecidableEq

/-- What a request returns, the rows it leaves, and what it sent to Stripe. -/
structure CheckoutOutcome where
  result : Tx CheckoutResult
  db : Db
  sent : Option SessionParams

/-- A transaction that takes effect unless it fails, and returns if its answer comes. -/
def answeredBy (answer : Answer) (body : Db → Tx Db) (db : Db) : Bool × Db :=
  match answer, body db with
  | .works, .ok after => (true, after)
  | .lost, .ok after => (false, after)
  | .fails, _ | _, .error _ => (false, db)

/-- The `catch` of the session: the order is deleted, and whether that worked is not asked. -/
def undoOrder (answer : Answer) (orderId : OrderId) (message : Option String) (db : Db) : Tx CheckoutResult × Db :=
  (.error (.http (.badRequest ("Checkout failed: " ++ message.getD "Stripe Checkout failed"))),
    (answeredBy answer (Db.deleteOrder orderId) db).2)

def checkout (config : CheckoutConfig) (stripe : SessionParams → SessionAnswer) (slug : String)
    (dto : CreateCheckoutDto) (draw : CheckoutDraw) (answers : CheckoutAnswers) (db : Db) : CheckoutOutcome :=
  match priceCart config.isApiConfigured slug dto db with
  | .error failure => ⟨.error failure, db, none⟩
  | .ok priced =>
      let plan := planCheckout config.feeBps priced db
      let number := nextNumber (lastOrder db)
      match createOrder plan draw.orderId draw.firstItemId draw.now db with
      | .error failure => ⟨.error failure, db, none⟩
      | .ok ordered =>
          let params := sessionParams config db.tenantId plan draw.orderId number
          match stripe params with
          | .threw message =>
              let (result, after) := undoOrder answers.deleted draw.orderId message ordered
              ⟨result, after, some params⟩
          | .created session =>
              match answeredBy answers.recorded (recordSession draw.orderId session.id session.paymentIntent) ordered with
              | (true, after) => ⟨.ok ⟨draw.orderId, toString number, session.id, session.url⟩, after, some params⟩
              | (false, after) =>
                  let (result, after) := undoOrder answers.deleted draw.orderId answers.message after
                  ⟨result, after, some params⟩

end Aicos.Storefront
