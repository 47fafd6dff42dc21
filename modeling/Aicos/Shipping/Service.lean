import Aicos.Data.Json
import Aicos.Data.Rows
import Aicos.Data.Text
import Aicos.Queue.Producers

namespace Aicos.Shipping

open Aicos.Commerce Aicos.Data Aicos.Queue Aicos.Transition

/-! `ShippingService`: a shipment is recorded for an order, and moving it to IN_TRANSIT
makes the order FULFILLED and mails the buyer.  A call is several transactions, and
may end after any of them. -/

/-- The text of a cuid, which the buyer's notification refers to. -/
abbrev ShipmentId := String

inductive ShipmentStatus where
  | pending | labelPurchased | inTransit | delivered | returned | cancelled
deriving DecidableEq

inductive FulfillmentStatus where
  | unfulfilled | partly | fulfilled | returned
deriving DecidableEq

structure Shipment where
  id : ShipmentId
  orderId : OrderId
  status : ShipmentStatus
  carrier : Option String
  service : Option String
  trackingNumber : Option String
  trackingUrl : Option String
  labelUrlCached : Option String
  rateAmountCents : Option Int
  currency : String
  weightGrams : Option Nat
  shippedAt : Option Instant
  deliveredAt : Option Instant
deriving DecidableEq

structure ShippedOrder where
  id : OrderId
  number : Nat
  email : Option String
  fulfillmentStatus : FulfillmentStatus
  shippingAddress : Json

structure LocationAddress where
  firstName : Option String
  lastName : Option String
  company : Option String
  line1 : String
  line2 : Option String
  city : String
  region : Option String
  postalCode : Option String
  country : String
  phone : Option String
deriving DecidableEq

structure ShipFrom where
  isDefault : Bool
  address : Option LocationAddress
deriving DecidableEq

structure ShippoAddress where
  name : String
  street1 : String
  street2 : Option String
  city : String
  state : Option String
  zip : Option String
  country : String
  phone : Option String
deriving DecidableEq

structure ShippoParcel where
  lengthCm : Nat
  widthCm : Nat
  heightCm : Nat
  weightG : Nat
deriving DecidableEq

structure ShippoLabel where
  carrier : String
  service : Option String
  trackingNumber : Option String
  trackingUrl : Option String
  labelUrl : Option String
  rateAmountCents : Int
  currency : String
deriving DecidableEq

/-- `buyLabel` is the label that Shippo sells, unless the call fails. -/
structure Shippo where
  isConfigured : Bool
  buyLabel : ShippoAddress → ShippoAddress → ShippoParcel → Option ShippoLabel

structure CreateShipmentDto where
  buyLabel : Bool
  lengthCm : Option Nat
  widthCm : Option Nat
  heightCm : Option Nat
  carrier : Option String
  service : Option String
  trackingNumber : Option String
  trackingUrl : Option String
  rateAmountCents : Option Int
  weightGrams : Option Nat
deriving DecidableEq

structure UpdateShipmentDto where
  status : Option ShipmentStatus
  carrier : Option String
  trackingNumber : Option String
  trackingUrl : Option String
deriving DecidableEq

section Label

/-- `str(v)`: a text with more than blanks. -/
def filledText : Json → Option String
  | .string text => if trim text = "" then none else some text
  | _ => none

/-- `[...].filter(Boolean).join(' ')`. -/
def joinNames (names : List (Option String)) : String :=
  " ".intercalate (names.reduceOption.filter (· ≠ ""))

/-- Where the snapshot of the order is an address to ship to. -/
def toAddress (json : Json) : Option ShippoAddress :=
  let str (name : String) := filledText (json.field name)
  match (str "line1").or (str "street1"), str "city", str "country" with
  | some street1, some city, some country =>
      let name := joinNames [str "firstName", str "lastName"]
      some {
        name := if name = "" then ((str "name").getD "Customer") else name
        street1
        street2 := (str "line2").or (str "street2")
        city
        state := (str "region").or (str "state")
        zip := (str "postalCode").or (str "zip")
        country
        phone := str "phone" }
  | _, _, _ => none

def fromAddress (address : LocationAddress) : ShippoAddress where
  name := address.company.getD (
    let name := joinNames [address.firstName, address.lastName]
    if name = "" then "Warehouse" else name)
  street1 := address.line1
  street2 := address.line2
  city := address.city
  state := address.region
  zip := address.postalCode
  country := address.country
  phone := address.phone

/-- Every failure on the way is caught, and leaves a manual shipment. -/
def tryBuyLabel (shippo : Shippo) (locations : List ShipFrom) (shippingAddress : Json) (dto : CreateShipmentDto) :
    Option ShippoLabel := do
  let receiver ← toAddress shippingAddress
  let location ← locations.find? fun location => location.isDefault ∧ location.address.isSome
  let sender ← location.address
  shippo.buyLabel (fromAddress sender) receiver {
    lengthCm := dto.lengthCm.getD 20
    widthCm := dto.widthCm.getD 15
    heightCm := dto.heightCm.getD 10
    weightG := dto.weightGrams.getD 500 }

end Label

def newShipment (id : ShipmentId) (orderId : OrderId) (dto : CreateShipmentDto) (label : Option ShippoLabel) :
    Shipment where
  id := id
  orderId := orderId
  status := if label.isSome ∨ dto.trackingNumber.any (fun number => number ≠ "") then .labelPurchased else .pending
  carrier := (label.map (·.carrier)).or dto.carrier
  service := (label.bind (·.service)).or dto.service
  trackingNumber := (label.bind (·.trackingNumber)).or dto.trackingNumber
  trackingUrl := (label.bind (·.trackingUrl)).or dto.trackingUrl
  labelUrlCached := label.bind (·.labelUrl)
  rateAmountCents := (label.map (·.rateAmountCents)).or dto.rateAmountCents
  currency := (label.map (·.currency)).getD "USD"
  weightGrams := dto.weightGrams
  shippedAt := none
  deliveredAt := none

/-- The `data` of an update: the columns it writes. -/
structure ShipmentUpdate where
  status : Option ShipmentStatus
  carrier : Option String
  trackingNumber : Option String
  trackingUrl : Option String
  shippedAt : Option Instant
  deliveredAt : Option Instant
deriving DecidableEq

def ShipmentUpdate.apply (data : ShipmentUpdate) (shipment : Shipment) : Shipment :=
  { shipment with
    status := data.status.getD shipment.status
    carrier := data.carrier.or shipment.carrier
    trackingNumber := data.trackingNumber.or shipment.trackingNumber
    trackingUrl := data.trackingUrl.or shipment.trackingUrl
    shippedAt := data.shippedAt.or shipment.shippedAt
    deliveredAt := data.deliveredAt.or shipment.deliveredAt }

def becomingShipped (dto : UpdateShipmentDto) (existing : Shipment) : Bool :=
  dto.status = some .inTransit ∧ existing.status ≠ .inTransit

def becomingDelivered (dto : UpdateShipmentDto) (existing : Shipment) : Bool :=
  dto.status = some .delivered ∧ existing.status ≠ .delivered

def updateData (dto : UpdateShipmentDto) (existing : Shipment) (now : Instant) : ShipmentUpdate where
  status := dto.status
  carrier := dto.carrier
  trackingNumber := dto.trackingNumber
  trackingUrl := dto.trackingUrl
  shippedAt := if becomingShipped dto existing then some now else none
  deliveredAt := if becomingDelivered dto existing then some now else none

/-- The rows of one tenant, the notifications that were enqueued, the updates that were
committed, and the shipments that calls have returned. -/
structure Dispatch where
  orders : List ShippedOrder
  locations : List ShipFrom
  shipments : List Shipment
  emails : List EnqueueNotification
  written : List (ShipmentId × ShipmentUpdate)
  replied : List Shipment

inductive ShippingError where
  | notFound (message : String)
  | unavailable
deriving DecidableEq

/-- How the calls of a request to the database and the queue end.  A request that stops
between two of them has the effects of one whose next call fails. -/
structure UpdateAnswers where
  found : Answer
  updated : Answer
  fulfilled : Answer
  enqueued : Answer
deriving DecidableEq

namespace Dispatch

def findShipment (dispatch : Dispatch) (id : ShipmentId) : Option Shipment :=
  dispatch.shipments.find? fun shipment => shipment.id = id

def findOrder (dispatch : Dispatch) (id : OrderId) : Option ShippedOrder :=
  dispatch.orders.find? fun order => order.id = id

/-- A transaction that takes effect unless it fails, and returns if its answer comes. -/
def transact (dispatch : Dispatch) (answer : Answer) (change : Dispatch → Dispatch) : Bool × Dispatch :=
  match answer with
  | .works => (true, change dispatch)
  | .fails => (false, dispatch)
  | .lost => (false, change dispatch)

def insertShipment (shipment : Shipment) (dispatch : Dispatch) : Dispatch :=
  { dispatch with shipments := dispatch.shipments ++ [shipment] }

def updateShipment (id : ShipmentId) (data : ShipmentUpdate) (dispatch : Dispatch) : Dispatch :=
  { dispatch with
    shipments := updateWhere (fun shipment => shipment.id = id) data.apply dispatch.shipments
    written := dispatch.written ++ [(id, data)] }

def fulfillOrder (id : OrderId) (dispatch : Dispatch) : Dispatch :=
  { dispatch with
    orders := updateWhere (fun order => order.id = id)
      (fun order => { order with fulfillmentStatus := .fulfilled }) dispatch.orders }

/-- `notifications.enqueue` does nothing where there is no destination. -/
def enqueue (notification : EnqueueNotification) (dispatch : Dispatch) : Dispatch :=
  if notification.hasDestination then { dispatch with emails := dispatch.emails ++ [notification] } else dispatch

end Dispatch

section Requests

variable (shippo : Shippo) (dispatch : Dispatch)

def orNull (text : Option String) : Json :=
  (text.map Json.string).getD .null

def trackingEmail (order : ShippedOrder) (shipment : Shipment) : EnqueueNotification where
  template := "shipment_tracking"
  toAddress := order.email
  subject := some s!"Your order #{order.number} has shipped"
  payload := some (.object [
    ("orderNumber", .string (toString order.number)),
    ("carrier", orNull shipment.carrier),
    ("trackingNumber", orNull shipment.trackingNumber),
    ("trackingUrl", orNull shipment.trackingUrl)])
  refType := some "shipment"
  refId := some shipment.id

def create (id : ShipmentId) (orderId : OrderId) (dto : CreateShipmentDto) (found stored : Answer) :
    Except ShippingError Shipment × Dispatch :=
  if found ≠ .works then (.error .unavailable, dispatch)
  else
    match dispatch.findOrder orderId with
    | none => (.error (.notFound "Order not found"), dispatch)
    | some order =>
        let label := if dto.buyLabel ∧ shippo.isConfigured then
          tryBuyLabel shippo dispatch.locations order.shippingAddress dto else none
        let shipment := newShipment id orderId dto label
        -- a cuid is drawn once
        if (dispatch.findShipment id).isSome then (.error .unavailable, dispatch)
        else
          match dispatch.transact stored (Dispatch.insertShipment shipment) with
          | (true, after) => (.ok shipment, after)
          | (false, after) => (.error .unavailable, after)

/-- The order becomes FULFILLED, and the buyer gets a tracking email. -/
def onShipped (shipment : Shipment) (fulfilled enqueued : Answer) : Bool × Dispatch :=
  match dispatch.findOrder shipment.orderId with
  | none => (false, dispatch)
  | some order =>
      match dispatch.transact fulfilled (Dispatch.fulfillOrder order.id) with
      | (false, after) => (false, after)
      | (true, after) => after.transact enqueued (Dispatch.enqueue (trackingEmail order shipment))

def update (id : ShipmentId) (dto : UpdateShipmentDto) (now : Instant) (answers : UpdateAnswers) :
    Except ShippingError Shipment × Dispatch :=
  if answers.found ≠ .works then (.error .unavailable, dispatch)
  else
    match dispatch.findShipment id with
    | none => (.error (.notFound "Shipment not found"), dispatch)
    | some existing =>
        let data := updateData dto existing now
        match dispatch.transact answers.updated (Dispatch.updateShipment id data) with
        | (false, after) => (.error .unavailable, after)
        | (true, after) =>
            let shipment := data.apply existing
            if becomingShipped dto existing then
              match onShipped after shipment answers.fulfilled answers.enqueued with
              | (true, after) => (.ok shipment, after)
              | (false, after) => (.error .unavailable, after)
            else (.ok shipment, after)

def shipDto : UpdateShipmentDto where
  status := some .inTransit
  carrier := none
  trackingNumber := none
  trackingUrl := none

def ship (id : ShipmentId) (now : Instant) (answers : UpdateAnswers) : Except ShippingError Shipment × Dispatch :=
  update dispatch id shipDto now answers

end Requests

inductive ShippingCall where
  | create (id : ShipmentId) (orderId : OrderId) (dto : CreateShipmentDto) (found stored : Answer)
  | update (id : ShipmentId) (dto : UpdateShipmentDto) (now : Instant) (answers : UpdateAnswers)
  | ship (id : ShipmentId) (now : Instant) (answers : UpdateAnswers)

def ShippingCall.run (shippo : Shippo) (dispatch : Dispatch) : ShippingCall → Except ShippingError Shipment × Dispatch
  | .create id orderId dto found stored => Shipping.create shippo dispatch id orderId dto found stored
  | .update id dto now answers => Shipping.update dispatch id dto now answers
  | .ship id now answers => Shipping.ship dispatch id now answers

/-- What the caller has been told stays on record. -/
def Dispatch.answered : Except ShippingError Shipment × Dispatch → Dispatch
  | (.ok shipment, after) => { after with replied := after.replied ++ [shipment] }
  | (.error _, after) => after

def Dispatch.step (shippo : Shippo) (dispatch : Dispatch) (call : ShippingCall) : Dispatch :=
  Dispatch.answered (call.run shippo dispatch)

/-- Orders and locations, and no shipment yet. -/
def Dispatch.start (orders : List ShippedOrder) (locations : List ShipFrom) : Dispatch where
  orders := orders
  locations := locations
  shipments := []
  emails := []
  written := []
  replied := []

end Aicos.Shipping
