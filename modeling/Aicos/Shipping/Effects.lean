import Aicos.Shipping.Service

namespace Aicos.Shipping

open Aicos.Commerce Aicos.Data Aicos.Queue Aicos.Transition

/-! What a call leaves, once for every way in which it can end. -/

/-- An update, whether it is asked for by status or by `ship`. -/
structure UpdateCall where
  id : ShipmentId
  dto : UpdateShipmentDto
  now : Instant
  answers : UpdateAnswers

def ShippingCall.asUpdate : ShippingCall → Option UpdateCall
  | .create .. => none
  | .update id dto now answers => some ⟨id, dto, now, answers⟩
  | .ship id now answers => some ⟨id, shipDto, now, answers⟩

/-- The update finds the shipment and is committed. -/
structure UpdateCall.Lands (dispatch : Dispatch) (call : UpdateCall) (existing : Shipment) : Prop where
  present : dispatch.findShipment call.id = some existing
  found : call.answers.found = .works
  updated : call.answers.updated ≠ .fails

def UpdateCall.data (call : UpdateCall) (existing : Shipment) : ShipmentUpdate :=
  updateData call.dto existing call.now

variable {shippo : Shippo} {dispatch : Dispatch}

/-- How a committed update ends: cut off at once, returned with nothing more to do, or
gone on to the order and the email. -/
inductive Landed (dispatch : Dispatch) (call : UpdateCall) (existing : Shipment) : Dispatch → Prop where
  | stopped (unanswered : call.answers.updated = .lost ∨ becomingShipped call.dto existing = true) :
      Landed dispatch call existing (dispatch.updateShipment call.id (call.data existing))
  | plain (answered : call.answers.updated = .works) (quiet : becomingShipped call.dto existing = false) :
      Landed dispatch call existing
        { dispatch.updateShipment call.id (call.data existing) with
          replied := dispatch.replied ++ [(call.data existing).apply existing] }
  | shipped (order : ShippedOrder) (emails : List EnqueueNotification) (replied : List Shipment)
      (becoming : becomingShipped call.dto existing = true) (known : dispatch.findOrder existing.orderId = some order)
      (mailed : emails = dispatch.emails ∨ ∃ email, email.refId = some existing.id ∧ emails = dispatch.emails ++ [email])
      (told : replied = dispatch.replied ∨ replied = dispatch.replied ++ [(call.data existing).apply existing]) :
      Landed dispatch call existing
        { (dispatch.updateShipment call.id (call.data existing)).fulfillOrder order.id with emails, replied }

theorem transact_cases (dispatch : Dispatch) (answer : Answer) (change : Dispatch → Dispatch) :
    (answer = .works ∧ dispatch.transact answer change = (true, change dispatch)) ∨
      (answer = .fails ∧ dispatch.transact answer change = (false, dispatch)) ∨
      (answer = .lost ∧ dispatch.transact answer change = (false, change dispatch)) := by
  cases answer with
  | works => exact .inl ⟨rfl, rfl⟩
  | fails => exact .inr (.inl ⟨rfl, rfl⟩)
  | lost => exact .inr (.inr ⟨rfl, rfl⟩)

/-- The transaction of the order is the last that can leave the email out. -/
theorem onShipped_cases (dispatch : Dispatch) (shipment : Shipment) (fulfilled enqueued : Answer) :
    onShipped dispatch shipment fulfilled enqueued = (false, dispatch) ∨
      ∃ order emails told, dispatch.findOrder shipment.orderId = some order ∧
        (emails = dispatch.emails ∨
          ∃ email : EnqueueNotification, email.refId = some shipment.id ∧ emails = dispatch.emails ++ [email]) ∧
        onShipped dispatch shipment fulfilled enqueued =
          (told, { dispatch.fulfillOrder order.id with emails }) := by
  unfold onShipped
  cases known : dispatch.findOrder shipment.orderId with
  | none => exact .inl rfl
  | some order =>
      dsimp only
      rcases transact_cases dispatch fulfilled (Dispatch.fulfillOrder order.id) with
        ⟨_, ran⟩ | ⟨_, ran⟩ | ⟨_, ran⟩
      · rw [ran]
        refine .inr ⟨order, ?_⟩
        have sent : ∃ emails, (emails = dispatch.emails ∨
            ∃ email : EnqueueNotification, email.refId = some shipment.id ∧ emails = dispatch.emails ++ [email]) ∧
            Dispatch.enqueue (trackingEmail order shipment) (dispatch.fulfillOrder order.id) =
              { dispatch.fulfillOrder order.id with emails } := by
          unfold Dispatch.enqueue
          split
          · exact ⟨_, .inr ⟨trackingEmail order shipment, rfl, rfl⟩, rfl⟩
          · exact ⟨dispatch.emails, .inl rfl, rfl⟩
        obtain ⟨emails, mailed, queued⟩ := sent
        rcases transact_cases (dispatch.fulfillOrder order.id) enqueued
          (Dispatch.enqueue (trackingEmail order shipment)) with ⟨_, ran⟩ | ⟨_, ran⟩ | ⟨_, ran⟩
        · exact ⟨emails, true, rfl, mailed, by rw [← queued]; exact ran⟩
        · exact ⟨dispatch.emails, false, rfl, .inl rfl, ran⟩
        · exact ⟨emails, false, rfl, mailed, by rw [← queued]; exact ran⟩
      · rw [ran]
        exact .inl rfl
      · rw [ran]
        exact .inr ⟨order, dispatch.emails, false, rfl, .inl rfl, rfl⟩

theorem findShipment_mem {id : ShipmentId} {shipment : Shipment} (found : dispatch.findShipment id = some shipment) :
    shipment ∈ dispatch.shipments ∧ shipment.id = id :=
  ⟨List.mem_of_find?_eq_some found, by simpa using List.find?_some found⟩

theorem update_cases (dispatch : Dispatch) (call : UpdateCall) :
    let after := Dispatch.answered (update dispatch call.id call.dto call.now call.answers)
    (after = dispatch ∧ ∀ existing, ¬ call.Lands dispatch existing) ∨
      ∃ existing, call.Lands dispatch existing ∧ Landed dispatch call existing after := by
  obtain ⟨id, dto, now, answers⟩ := call
  dsimp only
  unfold update
  by_cases reads : answers.found = .works
  · rw [if_neg (not_not.mpr reads)]
    cases present : dispatch.findShipment id with
    | none =>
        refine .inl ⟨rfl, fun existing lands => ?_⟩
        cases present.symm.trans lands.present
    | some existing =>
        dsimp only
        rcases transact_cases dispatch answers.updated
          (Dispatch.updateShipment id (updateData dto existing now)) with ⟨worked, ran⟩ | ⟨failed, ran⟩ | ⟨lost, ran⟩
        · rw [ran]
          have lands : UpdateCall.Lands dispatch ⟨id, dto, now, answers⟩ existing :=
            ⟨present, reads, by simp [worked]⟩
          refine .inr ⟨existing, lands, ?_⟩
          by_cases becoming : becomingShipped dto existing = true
          · simp only [if_pos becoming]
            have same : ((updateData dto existing now).apply existing).id = existing.id := rfl
            rcases onShipped_cases (dispatch.updateShipment id (updateData dto existing now))
              ((updateData dto existing now).apply existing) answers.fulfilled answers.enqueued with
              ran | ⟨order, emails, told, known, mailed, ran⟩
            · rw [ran]
              exact .stopped (.inr becoming)
            · rw [ran]
              cases told with
              | true => exact .shipped order emails _ becoming known mailed (.inr rfl)
              | false => exact .shipped order emails _ becoming known mailed (.inl rfl)
          · simp only [if_neg becoming]
            exact .plain worked (by simpa using becoming)
        · rw [ran]
          exact .inl ⟨rfl, fun _ lands => lands.updated failed⟩
        · rw [ran]
          refine .inr ⟨existing, ⟨present, reads, by simp [lost]⟩, ?_⟩
          exact .stopped (.inl lost)
  · rw [if_pos reads]
    exact .inl ⟨rfl, fun _ lands => reads lands.found⟩

/-- A shipment as it is recorded: neither shipped nor delivered. -/
structure Blank (shipment : Shipment) : Prop where
  status : shipment.status = .pending ∨ shipment.status = .labelPurchased
  shippedAt : shipment.shippedAt = none
  deliveredAt : shipment.deliveredAt = none

theorem newShipment_blank (id : ShipmentId) (orderId : OrderId) (dto : CreateShipmentDto) (label : Option ShippoLabel) :
    Blank (newShipment id orderId dto label) := by
  refine ⟨?_, rfl, rfl⟩
  unfold newShipment
  dsimp only
  split
  · exact .inr rfl
  · exact .inl rfl

theorem create_cases (shippo : Shippo) (dispatch : Dispatch) (id : ShipmentId) (orderId : OrderId)
    (dto : CreateShipmentDto) (found stored : Answer) :
    let after := Dispatch.answered (create shippo dispatch id orderId dto found stored)
    after = dispatch ∨ ∃ shipment replied, Blank shipment ∧ dispatch.findShipment shipment.id = none ∧
      (replied = dispatch.replied ∨ replied = dispatch.replied ++ [shipment]) ∧
      after = { dispatch.insertShipment shipment with replied } := by
  unfold create
  split
  · exact .inl rfl
  · split
    · exact .inl rfl
    · rename_i order known
      dsimp only
      split
      · exact .inl rfl
      · rename_i fresh
        generalize (if dto.buyLabel ∧ shippo.isConfigured then
          tryBuyLabel shippo dispatch.locations order.shippingAddress dto else none) = label
        have blank := newShipment_blank id orderId dto label
        have absent : dispatch.findShipment (newShipment id orderId dto label).id = none :=
          Option.not_isSome_iff_eq_none.mp fresh
        rcases transact_cases dispatch stored
          (Dispatch.insertShipment (newShipment id orderId dto label)) with ⟨_, ran⟩ | ⟨_, ran⟩ | ⟨_, ran⟩
        · rw [ran]
          exact .inr ⟨_, _, blank, absent, .inr rfl, rfl⟩
        · rw [ran]
          exact .inl rfl
        · rw [ran]
          exact .inr ⟨_, _, blank, absent, .inl rfl, rfl⟩

theorem step_asUpdate (shippo : Shippo) (dispatch : Dispatch) {update : UpdateCall}
    (asked : call.asUpdate = some update) :
    dispatch.step shippo call =
      Dispatch.answered (Shipping.update dispatch update.id update.dto update.now update.answers) := by
  cases call with
  | create id orderId dto found stored => cases asked
  | update id dto now answers =>
      obtain rfl := Option.some.inj asked
      rfl
  | ship id now answers =>
      obtain rfl := Option.some.inj asked
      rfl

/-- A call leaves the rows, records a shipment, or commits one update. -/
theorem step_cases (shippo : Shippo) (dispatch : Dispatch) (call : ShippingCall) :
    (dispatch.step shippo call = dispatch ∧
        ∀ update ∈ call.asUpdate, ∀ existing, ¬ update.Lands dispatch existing) ∨
      (call.asUpdate = none ∧ ∃ shipment replied, Blank shipment ∧ dispatch.findShipment shipment.id = none ∧
        (replied = dispatch.replied ∨ replied = dispatch.replied ++ [shipment]) ∧
        dispatch.step shippo call = { dispatch.insertShipment shipment with replied }) ∨
      ∃ update existing, call.asUpdate = some update ∧ update.Lands dispatch existing ∧
        Landed dispatch update existing (dispatch.step shippo call) := by
  cases asked : call.asUpdate with
  | some update =>
      have same := step_asUpdate shippo dispatch asked
      rw [same]
      rcases update_cases dispatch update with ⟨unchanged, never⟩ | ⟨existing, lands, landed⟩
      · refine .inl ⟨unchanged, ?_⟩
        rintro _ ⟨⟩
        exact never
      · exact .inr (.inr ⟨update, existing, rfl, lands, landed⟩)
  | none =>
      cases call with
      | create id orderId dto found stored =>
          rcases create_cases shippo dispatch id orderId dto found stored with
            unchanged | created
          · refine .inl ⟨unchanged, ?_⟩
            rintro _ ⟨⟩
          · exact .inr (.inl ⟨rfl, created⟩)
      | update id dto now answers => cases asked
      | ship id now answers => cases asked

end Aicos.Shipping
