import Aicos.Commerce.Tables
import Aicos.Returns.Service
import Aicos.Shipping.Service

namespace Aicos.Returns

open Aicos.Commerce

/-! `PortalService.requestReturn`: a buyer who knows the email and the number of
an order asks to return some of its units. -/

/-- `ReturnLineInput`, with its `@Min(1)`. -/
structure ReturnLineInput where
  orderItemId : OrderItemId
  quantity : Nat
  positive : 1 ≤ quantity

/-- `RequestReturnDto`, with its `@ArrayMinSize(1)`. -/
structure RequestReturnDto where
  email : String
  orderNumber : Nat
  reason : Option String
  items : List ReturnLineInput
  nonempty : items ≠ []

/-- The order of the number and email; `insensitive` is the database's
comparison of emails, which never holds of a null. -/
def lookupOrder (insensitive : String → String → Bool) (dto : RequestReturnDto) (db : Db) : Option Order :=
  db.orders.find? fun order => order.number = dto.orderNumber ∧ order.email.any (insensitive · dto.email)

/-- `new Map(items.map((it) => [it.id, it])).get(id)`: a later entry replaces an earlier one. -/
def itemById (items : List OrderItem) (id : OrderItemId) : Option OrderItem :=
  items.reverse.find? fun item => item.id = id

def checkLine (items : List OrderItem) (line : ReturnLineInput) : Tx ReturnItem :=
  match itemById items line.orderItemId with
  | none => throw (.http (.badRequest s!"Unknown order item {line.orderItemId}"))
  | some item =>
      if line.quantity > item.quantity then
        throw (.http (.badRequest s!"Return quantity {line.quantity} exceeds ordered {item.quantity}"))
      else pure { orderItem := item, quantity := line.quantity }

def checkLines (items : List OrderItem) : List ReturnLineInput → Tx (List ReturnItem)
  | [] => pure []
  | line :: lines => do
      let checked ← checkLine items line
      let rest ← checkLines items lines
      pure (checked :: rest)

def newReturn (id : ReturnId) (order : Order) (reason : Option String) (items : List ReturnItem) :
    Return where
  id := id
  orderId := order.id
  status := .requested
  reason := reason
  receivedAt := none
  refundedAt := none
  items := items

/-- `requestReturn`; `id` is the cuid of the return row. -/
def requestReturn (insensitive : String → String → Bool) (slug : String) (dto : RequestReturnDto)
    (id : ReturnId) (db : Db) : Tx Db :=
  match db.publishedStore slug with
  | none => throw (.http (.notFound "Store not found"))
  | some _ =>
      match lookupOrder insensitive dto db with
      | none => throw (.http (.notFound "Order not found"))
      | some order => do
          let items ← checkLines order.items dto.items
          db.createReturn (newReturn id order dto.reason items)

section Guests

open Aicos.Data Aicos.Shipping

/-! `PortalService`: guests look their orders up and ask for returns, each request with an
email, while the staff approves and rejects. -/

structure OrderLookupDto where
  email : String
  orderNumber : Nat
deriving DecidableEq

/-- The rows of the tenant with what only the portal shows of them: the shipments, and the
columns `fulfillmentStatus` of orders and `createdAt` of returns. -/
structure Portal where
  db : Db
  shipments : List Shipment
  fulfillment : OrderId → FulfillmentStatus
  requestedAt : ReturnId → Instant

structure OrderLineView where
  orderItemId : OrderItemId
  productTitle : String
  variantTitle : Option String
  sku : Option String
  quantity : Nat
  unitPriceCents : Int
  totalCents : Int
deriving DecidableEq

structure ShipmentView where
  status : ShipmentStatus
  carrier : Option String
  trackingNumber : Option String
  trackingUrl : Option String
  shippedAt : Option Instant
deriving DecidableEq

/-- What `requestReturn` answers, and an order's view shows of each return. -/
structure ReturnReceipt where
  id : ReturnId
  status : ReturnStatus
  createdAt : Instant
deriving DecidableEq

structure OrderView where
  id : OrderId
  number : Nat
  status : OrderStatus
  financialStatus : FinancialStatus
  fulfillmentStatus : FulfillmentStatus
  currency : String
  subtotalCents : Int
  taxCents : Int
  totalCents : Int
  placedAt : Option Instant
  createdAt : Instant
  items : List OrderLineView
  shipments : List ShipmentView
  returns : List ReturnReceipt
deriving DecidableEq

structure ReturnView where
  id : ReturnId
  status : ReturnStatus
  orderNumber : Nat
  reason : Option String
  items : List (OrderItemId × Nat)
  createdAt : Instant
  refundedAt : Option Instant
deriving DecidableEq

def orderLineView (item : OrderItem) : OrderLineView where
  orderItemId := item.id
  productTitle := item.productTitle
  variantTitle := item.variantTitle
  sku := item.sku
  quantity := item.quantity
  unitPriceCents := item.unitPriceCents
  totalCents := item.totalCents

def shipmentView (shipment : Shipment) : ShipmentView where
  status := shipment.status
  carrier := shipment.carrier
  trackingNumber := shipment.trackingNumber
  trackingUrl := shipment.trackingUrl
  shippedAt := shipment.shippedAt

namespace Portal

variable (insensitive : String → String → Bool) (portal : Portal)

def receipt (ret : Return) : ReturnReceipt where
  id := ret.id
  status := ret.status
  createdAt := portal.requestedAt ret.id

/-- `toOrderView`; shipments and returns come newest first. -/
def toOrderView (order : Order) : OrderView where
  id := order.id
  number := order.number
  status := order.status
  financialStatus := order.financialStatus
  fulfillmentStatus := portal.fulfillment order.id
  currency := order.currency
  subtotalCents := order.subtotalCents
  taxCents := order.taxCents
  totalCents := order.totalCents
  placedAt := order.placedAt
  createdAt := order.createdAt
  items := order.items.map orderLineView
  shipments := ((portal.shipments.filter fun shipment => shipment.orderId = order.id).map shipmentView).reverse
  returns := ((portal.db.returns.filter fun ret => ret.orderId = order.id).map portal.receipt).reverse

/-- A store of the tenant, or the error of `resolveTenant`. -/
def resolveTenant (slug : String) : Tx Unit :=
  match portal.db.publishedStore slug with
  | none => throw (.http (.notFound "Store not found"))
  | some _ => pure ()

def lookupOrder (slug : String) (dto : OrderLookupDto) : Tx OrderView := do
  portal.resolveTenant slug
  match portal.db.orders.find? fun order => order.number = dto.orderNumber ∧ order.email.any (insensitive · dto.email) with
  | none => throw (.http (.notFound "Order not found — check the email and order number"))
  | some order => pure (portal.toOrderView order)

def findReturn (id : ReturnId) (email : String) : Option Return :=
  portal.db.returns.find? fun ret =>
    ret.id = id ∧ (portal.db.findOrder ret.orderId).any fun order => order.email.any (insensitive · email)

def toReturnView (ret : Return) (order : Order) : ReturnView where
  id := ret.id
  status := ret.status
  orderNumber := order.number
  reason := ret.reason
  items := ret.items.map fun item => (item.orderItem.id, item.quantity)
  createdAt := portal.requestedAt ret.id
  refundedAt := ret.refundedAt

/-- The return that is found has an order. -/
def returnView (id : ReturnId) (email : String) : Option ReturnView :=
  (portal.findReturn insensitive id email).bind fun ret =>
    (portal.db.findOrder ret.orderId).map (portal.toReturnView ret)

def getReturn (slug : String) (id : ReturnId) (email : String) : Tx ReturnView := do
  portal.resolveTenant slug
  match portal.returnView insensitive id email with
  | none => throw (.http (.notFound "Return not found"))
  | some view => pure view

end Portal

inductive GuestRequest where
  | lookup (dto : OrderLookupDto)
  | request (dto : RequestReturnDto) (id : ReturnId) (now : Instant)
  | track (id : ReturnId) (email : String)

/-- The email that a guest names. -/
def GuestRequest.email : GuestRequest → String
  | .lookup dto => dto.email
  | .request dto _ _ => dto.email
  | .track _ email => email

inductive PortalAction where
  | guest (slug : String) (request : GuestRequest)
  | approve (id : ReturnId)
  | reject (id : ReturnId)

inductive GuestAnswer where
  | order (view : Tx OrderView)
  | requested (receipt : Tx ReturnReceipt)
  | tracked (view : Tx ReturnView)

namespace Portal

variable (insensitive : String → String → Bool) (portal : Portal)

def commit (body : Db → Tx Db) : Portal :=
  { portal with db := Commerce.commit body portal.db }

/-- `requestReturn`, with the time that the database gives the row. -/
def requested (slug : String) (dto : RequestReturnDto) (id : ReturnId) (now : Instant) : Portal :=
  match requestReturn insensitive slug dto id portal.db with
  | .ok after => { portal with db := after, requestedAt := Function.update portal.requestedAt id now }
  | .error _ => portal

def step : PortalAction → Portal
  | .guest slug (.request dto id now) => portal.requested insensitive slug dto id now
  | .guest _ _ => portal
  | .approve id => portal.commit (approve id)
  | .reject id => portal.commit (reject id)

/-- What a guest's request answers. -/
def reply : PortalAction → Option GuestAnswer
  | .guest slug (.lookup dto) => some (.order (portal.lookupOrder insensitive slug dto))
  | .guest slug (.request dto id now) => some (.requested
      ((requestReturn insensitive slug dto id portal.db).map fun _ => ⟨id, .requested, now⟩))
  | .guest slug (.track id email) => some (.tracked (portal.getReturn insensitive slug id email))
  | _ => none

end Portal

end Guests

end Aicos.Returns
