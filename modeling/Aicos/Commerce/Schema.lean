import Mathlib.Data.List.Basic

namespace Aicos.Commerce

/-! The rows of `schema.prisma` that carts, orders, payments, returns and stock use.

A `Db` holds the rows of one tenant, which is what row-level security lets the
statements inside `withTenant` see.  Identifiers are cuids and Stripe ids that
the code only compares, so they are numbers here; instants are numbers too, and
an amount of money is an integer count of minor units.
-/

abbrev TenantId := Nat
abbrev StoreId := Nat
abbrev VariantId := Nat
abbrev LocationId := Nat
abbrev InventoryItemId := Nat
abbrev CartToken := Nat
abbrev OrderId := Nat
abbrev OrderItemId := Nat
abbrev PaymentId := Nat
abbrev ReturnId := Nat
abbrev PaymentIntentId := Nat
abbrev StripeRefundId := Nat
abbrev StripeAccountId := Nat
abbrev CheckoutSessionId := Nat
abbrev Instant := Nat

inductive StoreStatus where
  | draft | building | published | suspended
deriving DecidableEq

inductive ProductStatus where
  | draft | pendingReview | active | archived
deriving DecidableEq

inductive InventoryPolicy where
  | deny | continue
deriving DecidableEq

inductive StockMovementType where
  | receive | sale | return | adjustment | reservation | release | transfer | extractionSeed
deriving DecidableEq

def StockMovementType.text : StockMovementType → String
  | .receive => "RECEIVE"
  | .sale => "SALE"
  | .return => "RETURN"
  | .adjustment => "ADJUSTMENT"
  | .reservation => "RESERVATION"
  | .release => "RELEASE"
  | .transfer => "TRANSFER"
  | .extractionSeed => "EXTRACTION_SEED"

inductive OrderStatus where
  | draft | pending | paid | partiallyFulfilled | fulfilled | completed | cancelled | refunded
deriving DecidableEq

inductive FinancialStatus where
  | unpaid | authorized | paid | partiallyRefunded | refunded | voided
deriving DecidableEq

inductive PaymentStatus where
  | requiresAction | processing | succeeded | failed | refunded | disputed
deriving DecidableEq

inductive ReturnStatus where
  | requested | approved | received | refunded | rejected
deriving DecidableEq

def ReturnStatus.text : ReturnStatus → String
  | .requested => "REQUESTED"
  | .approved => "APPROVED"
  | .received => "RECEIVED"
  | .refunded => "REFUNDED"
  | .rejected => "REJECTED"

structure Store where
  id : StoreId
  slug : String
  name : String
  status : StoreStatus
  currency : String
deriving DecidableEq

structure Product where
  status : ProductStatus
  title : String
  slug : String
deriving DecidableEq

/-- A variant row with the product columns the queries include. -/
structure ProductVariant where
  id : VariantId
  product : Product
  title : String
  sku : Option String
  priceCents : Int
  inventoryPolicy : InventoryPolicy
  deletedAt : Option Instant
deriving DecidableEq

structure InventoryItem where
  id : InventoryItemId
  variantId : VariantId
  locationId : LocationId
  onHand : Int
  reserved : Int
  reorderPoint : Int
  reorderQty : Int
  updatedAt : Instant
deriving DecidableEq

/-- What a movement refers to: `refType` with its `refId`. -/
inductive MovementRef where
  | order (id : OrderId)
  | return (id : ReturnId)
  | manual
deriving DecidableEq

structure StockMovement where
  inventoryItemId : InventoryItemId
  locationId : LocationId
  type : StockMovementType
  quantity : Int
  reason : Option String
  ref : MovementRef
deriving DecidableEq

structure Inventory where
  items : List InventoryItem
  movements : List StockMovement
deriving DecidableEq

structure CartItem where
  variantId : VariantId
  quantity : Nat
  unitPriceCents : Int
deriving DecidableEq

structure Cart where
  token : CartToken
  storeId : StoreId
  currency : String
  convertedOrderId : Option OrderId
  items : List CartItem
deriving DecidableEq

structure AddressSnapshot where
  name : Option String
  phone : Option String
  line1 : Option String
  line2 : Option String
  city : Option String
  state : Option String
  postalCode : Option String
  country : Option String
deriving DecidableEq

structure OrderItem where
  id : OrderItemId
  variantId : Option VariantId
  productTitle : String
  variantTitle : Option String
  sku : Option String
  quantity : Nat
  unitPriceCents : Int
  totalCents : Int
deriving DecidableEq

structure Order where
  id : OrderId
  storeId : StoreId
  number : Nat
  status : OrderStatus
  financialStatus : FinancialStatus
  currency : String
  subtotalCents : Int
  taxCents : Int
  totalCents : Int
  applicationFeeCents : Int
  shippingAddress : Option AddressSnapshot
  billingAddress : Option AddressSnapshot
  email : Option String
  stripeCheckoutSessionId : Option CheckoutSessionId
  stripePaymentIntentId : Option PaymentIntentId
  placedAt : Option Instant
  createdAt : Instant
  items : List OrderItem
deriving DecidableEq

structure Payment where
  id : PaymentId
  orderId : OrderId
  status : PaymentStatus
  amountCents : Int
  currency : String
  stripePaymentIntentId : Option PaymentIntentId
  applicationFeeCents : Int
  failureReason : Option String
  paidAt : Option Instant
deriving DecidableEq

structure Refund where
  orderId : OrderId
  paymentId : PaymentId
  amountCents : Int
  currency : String
  reason : Option String
  reverseTransfer : Bool
  stripeRefundId : Option StripeRefundId
deriving DecidableEq

/-- A return line.  Order items never change once an order is written, so the
line carries the row its `orderItemId` names, which every query includes. -/
structure ReturnItem where
  orderItem : OrderItem
  quantity : Nat
deriving DecidableEq

structure Return where
  id : ReturnId
  orderId : OrderId
  status : ReturnStatus
  reason : Option String
  receivedAt : Option Instant
  refundedAt : Option Instant
  items : List ReturnItem
deriving DecidableEq

structure ConnectAccount where
  stripeAccountId : StripeAccountId
  chargesEnabled : Bool
  payoutsEnabled : Bool
  detailsSubmitted : Bool
  currentlyDue : List String
  pastDue : List String
  disabledReason : Option String
deriving DecidableEq

/-- The rows of one tenant.  Rows stand in the order they were inserted. -/
structure Db where
  tenantId : TenantId
  stores : List Store
  variants : List ProductVariant
  stock : Inventory
  carts : List Cart
  orders : List Order
  payments : List Payment
  refunds : List Refund
  returns : List Return
  connectAccount : Option ConnectAccount
deriving DecidableEq

inductive HttpError where
  | notFound (message : String)
  | badRequest (message : String)
  | serviceUnavailable (message : String)
deriving DecidableEq

inductive Constraint where
  | primaryKey
  | cartTokenUnique
  | convertedOrderUnique
  | orderNumberUnique
  | orderPaymentIntentUnique
  | orderSessionUnique
  | stripeRefundUnique
  | recordNotFound
deriving DecidableEq

end Aicos.Commerce
