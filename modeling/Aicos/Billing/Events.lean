import Aicos.Commerce.Schema

namespace Aicos.Billing

open Aicos.Commerce

/-! The Stripe event objects, with the fields the worker touches. -/

abbrev EventId := Nat

/-- The metadata checkout puts on a session and on its payment intent; a key
that is absent or empty is `none`. -/
structure Metadata where
  tenantId : Option TenantId
  orderId : Option OrderId
  cartToken : Option CartToken
deriving DecidableEq

structure StripeAddress where
  line1 : Option String
  line2 : Option String
  city : Option String
  state : Option String
  postalCode : Option String
  country : Option String
deriving DecidableEq

structure StripeContactDetails where
  name : Option String
  phone : Option String
  email : Option String
  address : Option StripeAddress
deriving DecidableEq

/-- `CheckoutSessionObj`; `amountTax` is `total_details?.amount_tax`. -/
structure CheckoutSessionObj where
  id : CheckoutSessionId
  paymentIntent : Option PaymentIntentId
  amountTotal : Option Int
  currency : Option String
  metadata : Option Metadata
  amountTax : Option Int
  shippingDetails : Option StripeContactDetails
  collectedShippingDetails : Option StripeContactDetails
  customerDetails : Option StripeContactDetails
deriving DecidableEq

structure PaymentIntentObj where
  id : PaymentIntentId
  metadata : Option Metadata
  lastPaymentErrorMessage : Option String
deriving DecidableEq

structure StripeRefundObj where
  id : StripeRefundId
  amount : Int
  reason : Option String
deriving DecidableEq

/-- `ChargeObj`; `refunds` is `none` where the event carries no list. -/
structure ChargeObj where
  paymentIntent : Option PaymentIntentId
  refunds : Option (List StripeRefundObj)
deriving DecidableEq

structure AccountObj where
  id : StripeAccountId
  chargesEnabled : Bool
  payoutsEnabled : Bool
  detailsSubmitted : Bool
  currentlyDue : Option (List String)
  pastDue : Option (List String)
  disabledReason : Option String
  metadata : Option Metadata
deriving DecidableEq

inductive StripeObject where
  | checkoutSessionCompleted (session : CheckoutSessionObj)
  | paymentFailed (intent : PaymentIntentObj)
  | chargeRefunded (charge : ChargeObj)
  | accountUpdated (account : AccountObj)
  | unhandled
deriving DecidableEq

structure StripeEvent where
  id : EventId
  object : StripeObject
deriving DecidableEq

/-- JavaScript truthiness of a nullable string. -/
def truthy : Option String → Bool
  | none => false
  | some text => text ≠ ""

/-- The contact as an order address, unless it has no street, city or postal code. -/
def toAddressSnapshot (contact : Option StripeContactDetails) : Option AddressSnapshot :=
  match contact with
  | none => none
  | some details =>
      match details.address with
      | none => none
      | some address =>
          if truthy address.line1 ∨ truthy address.city ∨ truthy address.postalCode then
            some {
              name := details.name
              phone := details.phone
              line1 := address.line1
              line2 := address.line2
              city := address.city
              state := address.state
              postalCode := address.postalCode
              country := address.country }
          else none

def toUpperCase (text : String) : String :=
  String.ofList (text.toList.map Char.toUpper)

end Aicos.Billing
