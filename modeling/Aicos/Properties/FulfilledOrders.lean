import Aicos.Shipping.Effects
import Aicos.Transition.Run

namespace Aicos.Properties

open Aicos.Commerce Aicos.Data Aicos.Queue Aicos.Shipping Aicos.Transition

/-! Whether the order of a shipment that is reported under way is FULFILLED.  Only the
call that moves a shipment to IN_TRANSIT touches the order, and in a transaction of its own. -/

def UnderWay (status : ShipmentStatus) : Prop :=
  status = .inTransit ∨ status = .delivered

def OrderFulfilled (dispatch : Dispatch) (id : OrderId) : Prop :=
  ∀ order ∈ dispatch.orders, order.id = id → order.fulfillmentStatus = .fulfilled

/-- A call that has returned the shipment under way has its order FULFILLED. -/
def ReportedFulfilled (dispatch : Dispatch) : Prop :=
  ∀ shipment ∈ dispatch.replied, UnderWay shipment.status → OrderFulfilled dispatch shipment.orderId

/-- An update whose write is answered, that does not itself move the shipment to
IN_TRANSIT and leaves it under way, finds the order FULFILLED. -/
def FindsFulfilled (dispatch : Dispatch) (call : ShippingCall) : Prop :=
  ∀ update ∈ call.asUpdate, ∀ existing, update.Lands dispatch existing → update.answers.updated = .works →
    becomingShipped update.dto existing = false → UnderWay (update.dto.status.getD existing.status) →
      OrderFulfilled dispatch existing.orderId

variable {shippo : Shippo} {dispatch after : Dispatch} {existing : Shipment} {update : UpdateCall}

theorem OrderFulfilled.fulfillOrder {id : OrderId} (fulfilled : OrderFulfilled dispatch id) (other : OrderId) :
    OrderFulfilled (dispatch.fulfillOrder other) id := by
  intro order member same
  obtain ⟨old, there, rfl⟩ := List.mem_map.mp member
  split at same
  · rw [if_pos ‹_›]
  · rw [if_neg ‹_›]
    exact fulfilled old there same

theorem orderFulfilled_fulfillOrder (dispatch : Dispatch) (id : OrderId) :
    OrderFulfilled (dispatch.fulfillOrder id) id := by
  intro order member same
  obtain ⟨old, there, rfl⟩ := List.mem_map.mp member
  by_cases mine : old.id = id
  · rw [if_pos (by simpa using mine)]
  · rw [if_neg (by simpa using mine)] at same
    exact absurd same mine

/-- One reply more is in order exactly where its own order is FULFILLED. -/
theorem reportedFulfilled_append_iff (shipment : Shipment) (reported : ReportedFulfilled dispatch)
    (replied : after.replied = dispatch.replied ++ [shipment])
    (kept : ∀ id, OrderFulfilled dispatch id → OrderFulfilled after id) :
    ReportedFulfilled after ↔ (UnderWay shipment.status → OrderFulfilled after shipment.orderId) := by
  rw [ReportedFulfilled, replied]
  simp only [List.forall_mem_append, List.forall_mem_singleton]
  exact ⟨And.right, fun last => ⟨fun old member underWay => kept _ (reported old member underWay), last⟩⟩

theorem not_underWay_of_blank {shipment : Shipment} (blank : Blank shipment) : ¬ UnderWay shipment.status := by
  rintro (inTransit | delivered)
  · rcases blank.status with same | same <;> cases same.symm.trans inTransit
  · rcases blank.status with same | same <;> cases same.symm.trans delivered

theorem reportedFulfilled_landed_iff (reported : ReportedFulfilled dispatch)
    (landed : Landed dispatch update existing after) :
    ReportedFulfilled after ↔ (update.answers.updated = .works → becomingShipped update.dto existing = false →
      UnderWay (update.dto.status.getD existing.status) → OrderFulfilled dispatch existing.orderId) := by
  cases landed with
  | stopped unanswered =>
      refine iff_of_true reported fun answered quiet => ?_
      rcases unanswered with lost | becoming
      · cases lost.symm.trans answered
      · cases becoming.symm.trans quiet
  | plain answered quiet =>
      rw [imp_iff_right answered, imp_iff_right quiet]
      refine Iff.trans (reportedFulfilled_append_iff ((update.data existing).apply existing) reported ?_ ?_) Iff.rfl
      · rfl
      · exact fun _ fulfilled => fulfilled
  | shipped order emails replied becoming known mailed told =>
      refine iff_of_true ?_ fun _ quiet => by cases becoming.symm.trans quiet
      have own : order.id = existing.orderId := by simpa using List.find?_some known
      have kept (id : OrderId) (fulfilled : OrderFulfilled dispatch id) :
          OrderFulfilled (dispatch.fulfillOrder order.id) id :=
        fulfilled.fulfillOrder order.id
      rcases told with rfl | rfl
      · exact fun shipment member underWay => kept _ (reported shipment member underWay)
      · refine Iff.mpr (reportedFulfilled_append_iff ((update.data existing).apply existing) reported ?_ kept) fun _ => ?_
        · rfl
        have mine : OrderFulfilled (dispatch.fulfillOrder existing.orderId) existing.orderId :=
          orderFulfilled_fulfillOrder dispatch existing.orderId
        rw [← own] at mine
        exact own ▸ mine

theorem reportedFulfilled_step_iff (shippo : Shippo) (call : ShippingCall) (reported : ReportedFulfilled dispatch) :
    ReportedFulfilled (dispatch.step shippo call) ↔ FindsFulfilled dispatch call := by
  rcases step_cases shippo dispatch call with ⟨same, never⟩ | ⟨creates, shipment, replied, blank, _, told, same⟩ |
    ⟨update, existing, asked, lands, landed⟩
  · rw [same]
    exact iff_of_true reported fun update asked existing lands => absurd lands (never update asked existing)
  · rw [same]
    refine iff_of_true ?_ fun update asked => by cases creates.symm.trans asked
    rcases told with rfl | rfl
    · exact reported
    · refine Iff.mpr (reportedFulfilled_append_iff shipment reported ?_ ?_) fun underWay =>
        absurd underWay (not_underWay_of_blank blank)
      · rfl
      · exact fun _ fulfilled => fulfilled
  · rw [reportedFulfilled_landed_iff reported landed]
    constructor
    · intro fulfilled other asking row landing
      obtain rfl := Option.some.inj (asked.symm.trans asking)
      obtain rfl := Option.some.inj (lands.present.symm.trans landing.present)
      exact fulfilled
    · exact fun guard => guard update asked existing lands

/-- In every run from the creation of its shipments on, every order whose shipment was
returned under way is FULFILLED exactly as long as the updates that leave it alone find it so. -/
theorem reported_fulfilled_iff_finds_fulfilled (shippo : Shippo) (orders : List ShippedOrder)
    (locations : List ShipFrom) (calls : List ShippingCall) :
    Visits (Dispatch.step shippo) ReportedFulfilled (.start orders locations) calls ↔
      Along (Dispatch.step shippo) FindsFulfilled (.start orders locations) calls := by
  have framed (dispatch : Dispatch) (call : ShippingCall) (_ : True) (_ : True) : True := trivial
  refine visits_iff_along framed (fun _ call _ _ reported => reportedFulfilled_step_iff shippo call reported)
    (fun _ _ => trivial) trivial ?_
  intro shipment member
  cases member

section Delivered

def noLabels : Shippo where
  isConfigured := false
  buyLabel _ _ _ := none

def openOrder : ShippedOrder where
  id := 1
  number := 1001
  email := none
  fulfillmentStatus := .unfulfilled
  shippingAddress := .object []

def trackedParcel : CreateShipmentDto where
  buyLabel := false
  lengthCm := none
  widthCm := none
  heightCm := none
  carrier := some "Posta"
  service := none
  trackingNumber := some "RS1"
  trackingUrl := none
  rateAmountCents := none
  weightGrams := none

def recordParcel : ShippingCall := .create "shp" 1 trackedParcel .works .works

def allAnswered : UpdateAnswers := ⟨.works, .works, .works, .works⟩

def deliverParcel : ShippingCall := .update "shp" ⟨some .delivered, none, none, none⟩ 20 allAnswered

/-- A parcel marked DELIVERED straight away leaves its order UNFULFILLED. -/
theorem delivered_order_unfulfilled :
    ¬ Visits (Dispatch.step noLabels) ReportedFulfilled (.start [openOrder] []) [recordParcel, deliverParcel] := by
  intro visits
  have told : ∃ shipment ∈ (run (Dispatch.step noLabels) (.start [openOrder] []) [recordParcel, deliverParcel]).replied,
      shipment.status = .delivered ∧ shipment.orderId = 1 := by
    decide
  have waiting : openOrder ∈ (run (Dispatch.step noLabels) (.start [openOrder] []) [recordParcel, deliverParcel]).orders :=
    List.mem_singleton_self _
  obtain ⟨shipment, member, delivered, own⟩ := told
  have fulfilled := visits.last shipment member (.inr delivered) openOrder waiting own.symm
  cases fulfilled

/-- A `ship` cut off before the order and issued again returns, and the order stays as it was. -/
example :
    let calls : List ShippingCall :=
      [recordParcel, .ship "shp" 10 ⟨.works, .works, .fails, .works⟩, .ship "shp" 20 allAnswered]
    let after := run (Dispatch.step noLabels) (.start [openOrder] []) calls
    after.replied.getLast?.map (·.status) = some .inTransit ∧
      after.orders.map (·.fulfillmentStatus) = [.unfulfilled] := by
  decide

end Delivered

end Aicos.Properties
