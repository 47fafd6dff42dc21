import Aicos.Shipping.Effects
import Aicos.Transition.Run

namespace Aicos.Properties

open Aicos.Commerce Aicos.Data Aicos.Queue Aicos.Shipping Aicos.Transition

/-! How often a shipment is shipped.  An update compares the new status with the
current one alone, so a shipment that has left IN_TRANSIT can be shipped again. -/

/-- What the updates of a shipment were, in their order. -/
def updatesOf (dispatch : Dispatch) (id : ShipmentId) : List ShipmentUpdate :=
  (dispatch.written.filter fun entry => entry.1 = id).map (·.2)

def emailsOf (dispatch : Dispatch) (id : ShipmentId) : List EnqueueNotification :=
  dispatch.emails.filter fun email => email.refId = some id

def shippings (updates : List ShipmentUpdate) : List ShipmentUpdate :=
  updates.filter fun data => data.shippedAt.isSome

/-- No update to IN_TRANSIT comes after one to DELIVERED. -/
def NeverReturns (updates : List ShipmentUpdate) : Prop :=
  updates.Pairwise fun earlier later => earlier.status = some .delivered → later.status ≠ some .inTransit

structure ShippedOnce (dispatch : Dispatch) (id : ShipmentId) : Prop where
  emails : (emailsOf dispatch id).length ≤ 1
  shippedAt : (shippings (updatesOf dispatch id)).length ≤ 1
  delivered : NeverReturns (updatesOf dispatch id)

/-- A shipment that an update moves to IN_TRANSIT was neither shipped nor delivered before. -/
def ShipsAfresh (dispatch : Dispatch) (call : ShippingCall) : Prop :=
  ∀ update ∈ call.asUpdate, ∀ existing, update.Lands dispatch existing →
    becomingShipped update.dto existing = true → existing.shippedAt = none ∧ existing.deliveredAt = none

section Row

/-- What a row says of the updates it had. -/
structure OnRecord (updates : List ShipmentUpdate) (shipment : Shipment) : Prop where
  shippedAt : shipment.shippedAt = none ↔ shippings updates = []
  deliveredAt : shipment.deliveredAt = none ↔ ∀ data ∈ updates, data.status ≠ some .delivered
  delivered : shipment.status = .delivered → shipment.deliveredAt ≠ none
  inTransit : shipment.status = .inTransit → shipment.deliveredAt ≠ none → ¬ NeverReturns updates

variable {updates : List ShipmentUpdate} {shipment : Shipment} {dto : UpdateShipmentDto} {now : Instant}

theorem OnRecord.blank (blank : Blank shipment) : OnRecord [] shipment := by
  obtain ⟨status, shippedAt, deliveredAt⟩ := blank
  refine ⟨by simp [shippedAt, shippings], by simp [deliveredAt], fun delivered => ?_, fun inTransit => ?_⟩
  · rcases status with same | same <;> cases same.symm.trans delivered
  · rcases status with same | same <;> cases same.symm.trans inTransit

theorem shippings_append : shippings (updates ++ [updateData dto shipment now]) =
    shippings updates ++ if becomingShipped dto shipment then [updateData dto shipment now] else [] := by
  rw [shippings, List.filter_append, ← shippings]
  by_cases becoming : becomingShipped dto shipment = true <;> simp [updateData, becoming]

theorem neverReturns_append : NeverReturns (updates ++ [updateData dto shipment now]) ↔
    NeverReturns updates ∧ (dto.status = some .inTransit → ∀ data ∈ updates, data.status ≠ some .delivered) := by
  rw [NeverReturns, List.pairwise_append]
  constructor
  · intro given
    obtain ⟨kept, _, apart⟩ := given
    exact ⟨kept, fun asked data member delivered =>
      apart data member (updateData dto shipment now) (by simp) delivered asked⟩
  · intro given
    obtain ⟨kept, unseen⟩ := given
    refine ⟨kept, List.pairwise_singleton _ _, fun data member later last delivered asked => ?_⟩
    obtain rfl := List.mem_singleton.mp last
    exact unseen asked data member delivered

theorem becomingShipped_iff : becomingShipped dto shipment = true ↔
    dto.status = some .inTransit ∧ shipment.status ≠ .inTransit := by
  simp [becomingShipped]

theorem deliveredAt_apply : ((updateData dto shipment now).apply shipment).deliveredAt =
    (if becomingDelivered dto shipment then some now else none).or shipment.deliveredAt := rfl

/-- An update without DELIVERED leaves the time of delivery. -/
theorem deliveredAt_apply_of_ne (other : dto.status ≠ some .delivered) :
    ((updateData dto shipment now).apply shipment).deliveredAt = shipment.deliveredAt := by
  simp [deliveredAt_apply, becomingDelivered, other]

/-- The status after an update is the one it asks for, or else the old one. -/
theorem status_apply_iff {status : ShipmentStatus} : ((updateData dto shipment now).apply shipment).status = status ↔
    dto.status = some status ∨ dto.status = none ∧ shipment.status = status :=
  Option.getD_eq_iff

theorem OnRecord.delivers (record : OnRecord updates shipment) (asked : dto.status = some .delivered) :
    ((updateData dto shipment now).apply shipment).deliveredAt ≠ none := by
  by_cases already : shipment.status = .delivered
  · have marked := record.delivered already
    simp [deliveredAt_apply, becomingDelivered, already, marked]
  · simp [deliveredAt_apply, becomingDelivered, asked, already]

theorem OnRecord.update (record : OnRecord updates shipment) :
    OnRecord (updates ++ [updateData dto shipment now]) ((updateData dto shipment now).apply shipment) := by
  constructor
  · have shippedAt : ((updateData dto shipment now).apply shipment).shippedAt =
        (if becomingShipped dto shipment then some now else none).or shipment.shippedAt := rfl
    rw [shippedAt, shippings_append]
    by_cases becoming : becomingShipped dto shipment = true
    · simp [becoming]
    · simpa [becoming] using record.shippedAt
  · by_cases asked : dto.status = some .delivered
    · refine iff_of_false (record.delivers asked) fun none => none (updateData dto shipment now) (by simp) asked
    · rw [deliveredAt_apply_of_ne asked, record.deliveredAt]
      simp only [List.forall_mem_append, List.forall_mem_singleton]
      exact ⟨fun none => ⟨none, asked⟩, And.left⟩
  · intro delivered
    rcases status_apply_iff.mp delivered with asked | ⟨unasked, already⟩
    · exact record.delivers asked
    · rw [deliveredAt_apply_of_ne (by simp [unasked])]
      exact record.delivered already
  · intro inTransit marked returns
    obtain ⟨kept, unseen⟩ := neverReturns_append.mp returns
    rcases status_apply_iff.mp inTransit with asked | ⟨unasked, already⟩
    · rw [deliveredAt_apply_of_ne (by simp [asked])] at marked
      exact marked (record.deliveredAt.mpr (unseen asked))
    · rw [deliveredAt_apply_of_ne (by simp [unasked])] at marked
      exact record.inTransit already marked kept

/-- One update more keeps a record clean exactly where it does not ship again. -/
theorem clean_append_iff (dto : UpdateShipmentDto) (now : Instant) (record : OnRecord updates shipment)
    (once : (shippings updates).length ≤ 1) (returns : NeverReturns updates) :
    ((shippings (updates ++ [updateData dto shipment now])).length ≤ 1 ∧
        NeverReturns (updates ++ [updateData dto shipment now])) ↔
      (becomingShipped dto shipment = true → shipment.shippedAt = none ∧ shipment.deliveredAt = none) := by
  rw [shippings_append, neverReturns_append, record.shippedAt, record.deliveredAt]
  by_cases becoming : becomingShipped dto shipment = true
  · have asked := (becomingShipped_iff.mp becoming).1
    rw [if_pos becoming, imp_iff_right becoming, List.length_append, List.length_singleton]
    constructor
    · intro given
      obtain ⟨short, _, unseen⟩ := given
      exact ⟨List.length_eq_zero_iff.mp (by omega), unseen asked⟩
    · intro given
      obtain ⟨empty, unseen⟩ := given
      exact ⟨by simp [empty], returns, fun _ => unseen⟩
  · rw [if_neg becoming, List.append_nil]
    refine iff_of_true ⟨once, returns, fun asked => ?_⟩ fun shipped => absurd shipped becoming
    have inTransit : shipment.status = .inTransit := by
      by_contra apart
      exact becoming (becomingShipped_iff.mpr ⟨asked, apart⟩)
    refine record.deliveredAt.mp ?_
    by_contra marked
    exact record.inTransit inTransit marked returns

end Row

/-- The log against the rows, and an email for no more than every shipping. -/
structure Accountable (dispatch : Dispatch) (id : ShipmentId) : Prop where
  record : ∀ shipment, dispatch.findShipment id = some shipment → OnRecord (updatesOf dispatch id) shipment
  unknown : dispatch.findShipment id = none → updatesOf dispatch id = []
  emails : (emailsOf dispatch id).length ≤ (shippings (updatesOf dispatch id)).length

variable {shippo : Shippo} {dispatch after : Dispatch} {call : ShippingCall} {existing : Shipment} {id other : ShipmentId}

section Updated

/-- What all committed updates have in common. -/
structure Updated (dispatch : Dispatch) (update : UpdateCall) (existing : Shipment) (after : Dispatch) : Prop where
  shipments : after.shipments = (dispatch.updateShipment update.id (update.data existing)).shipments
  written : after.written = dispatch.written ++ [(update.id, update.data existing)]
  emails : after.emails = dispatch.emails ∨ (becomingShipped update.dto existing = true ∧
    ∃ email, email.refId = some existing.id ∧ after.emails = dispatch.emails ++ [email])

variable {update : UpdateCall}

theorem updated_of_landed (landed : Landed dispatch update existing after) : Updated dispatch update existing after := by
  cases landed with
  | stopped _ => exact ⟨rfl, rfl, .inl rfl⟩
  | plain _ _ => exact ⟨rfl, rfl, .inl rfl⟩
  | shipped order emails replied becoming known mailed told =>
      exact ⟨rfl, rfl, mailed.imp_right fun sent => ⟨becoming, sent⟩⟩

theorem Updated.updatesOf (updated : Updated dispatch update existing after) (id : ShipmentId) :
    updatesOf after id = Properties.updatesOf dispatch id ++ if update.id = id then [update.data existing] else [] := by
  rw [Properties.updatesOf, updated.written, List.filter_append, List.map_append]
  by_cases same : update.id = id <;> simp [same, Properties.updatesOf]

theorem Updated.findShipment (updated : Updated dispatch update existing after) (id : ShipmentId) :
    after.findShipment id = (dispatch.findShipment id).map fun shipment =>
      if shipment.id = update.id then (update.data existing).apply shipment else shipment := by
  rw [Dispatch.findShipment, updated.shipments, Dispatch.updateShipment, updateWhere, List.find?_map]
  have same : ((fun shipment : Shipment => decide (shipment.id = id)) ∘ fun shipment =>
      if decide (shipment.id = update.id) then (update.data existing).apply shipment else shipment) =
      fun shipment : Shipment => decide (shipment.id = id) := by
    funext shipment
    dsimp only [Function.comp_apply]
    split <;> rfl
  rw [same]
  simp [Dispatch.findShipment]

theorem Updated.emailsOf_of_ne (updated : Updated dispatch update existing after) (apart : existing.id ≠ id) :
    emailsOf after id = emailsOf dispatch id := by
  rcases updated.emails with same | ⟨_, email, about, sent⟩
  · rw [emailsOf, same, ← emailsOf]
  · rw [emailsOf, sent, List.filter_append, ← emailsOf]
    simp [about, apart]

end Updated

theorem accountable_update {update : UpdateCall} (lands : update.Lands dispatch existing)
    (updated : Updated dispatch update existing after) (accountable : Accountable dispatch id) :
    Accountable after id := by
  have key := (findShipment_mem lands.present).2
  by_cases mine : update.id = id
  · subst mine
    have updates := updated.updatesOf update.id
    rw [if_pos rfl] at updates
    constructor
    · intro shipment found
      rw [updated.findShipment, lands.present, Option.map_some, if_pos key] at found
      obtain rfl := Option.some.inj found
      rw [updates]
      exact (accountable.record existing lands.present).update
    · intro absent
      rw [updated.findShipment, lands.present] at absent
      cases absent
    · rw [updates, UpdateCall.data, shippings_append]
      have before := accountable.emails
      rcases updated.emails with same | ⟨becoming, email, about, sent⟩
      · rw [emailsOf, same, ← emailsOf, List.length_append]
        omega
      · rw [emailsOf, sent, List.filter_append, ← emailsOf, if_pos becoming, List.length_append, List.length_append]
        have one : (List.filter (fun email : EnqueueNotification => decide (email.refId = some update.id))
            [email]).length ≤ 1 := List.length_filter_le _ _
        simp only [List.length_singleton]
        omega
  · have updates := updated.updatesOf id
    rw [if_neg mine, List.append_nil] at updates
    constructor
    · intro shipment found
      rw [updated.findShipment] at found
      obtain ⟨old, there, same⟩ := Option.map_eq_some_iff.mp found
      have apart : old.id ≠ update.id := by
        rw [(findShipment_mem there).2]
        exact Ne.symm mine
      rw [if_neg apart] at same
      rw [updates, ← same]
      exact accountable.record old there
    · intro absent
      rw [updated.findShipment, Option.map_eq_none_iff] at absent
      rw [updates]
      exact accountable.unknown absent
    · rw [updates, updated.emailsOf_of_ne (key ▸ mine)]
      exact accountable.emails

theorem accountable_insert {shipment : Shipment} {replied : List Shipment} (blank : Blank shipment)
    (accountable : Accountable dispatch id) :
    Accountable { dispatch.insertShipment shipment with replied } id := by
  have found : Dispatch.findShipment { dispatch.insertShipment shipment with replied } id =
      (dispatch.findShipment id).or (if shipment.id = id then some shipment else none) := by
    rw [Dispatch.findShipment, Dispatch.insertShipment, List.find?_append, ← Dispatch.findShipment]
    by_cases mine : shipment.id = id <;> simp [mine]
  constructor
  · intro row there
    rw [found] at there
    cases before : dispatch.findShipment id with
    | some old =>
        rw [before, Option.some_or] at there
        exact accountable.record row (before.trans there)
    | none =>
        rw [before, Option.none_or] at there
        have empty : updatesOf { dispatch.insertShipment shipment with replied } id = [] := accountable.unknown before
        split at there
        · obtain rfl := Option.some.inj there
          rw [empty]
          exact .blank blank
        · cases there
  · intro absent
    rw [found, Option.or_eq_none_iff] at absent
    exact accountable.unknown absent.1
  · exact accountable.emails

theorem accountable_step (shippo : Shippo) (call : ShippingCall) (accountable : ∀ id, Accountable dispatch id)
    (id : ShipmentId) :
    Accountable (dispatch.step shippo call) id := by
  rcases step_cases shippo dispatch call with ⟨same, _⟩ | ⟨_, shipment, replied, blank, _, _, same⟩ |
    ⟨update, existing, _, lands, landed⟩
  · rw [same]
    exact accountable id
  · rw [same]
    exact accountable_insert blank (accountable id)
  · exact accountable_update lands (updated_of_landed landed) (accountable id)

theorem shippedOnce_step_iff (accountable : ∀ id, Accountable dispatch id) (once : ∀ id, ShippedOnce dispatch id) :
    (∀ id, ShippedOnce (dispatch.step shippo call) id) ↔ ShipsAfresh dispatch call := by
  rcases step_cases shippo dispatch call with ⟨same, never⟩ | ⟨creates, shipment, replied, _, _, _, same⟩ |
    ⟨update, existing, asked, lands, landed⟩
  · rw [same]
    exact iff_of_true once fun update asked existing lands => absurd lands (never update asked existing)
  · rw [same]
    refine iff_of_true (fun id => ⟨(once id).emails, (once id).shippedAt, (once id).delivered⟩) ?_
    intro update asked
    cases creates.symm.trans asked
  · have updated := updated_of_landed landed
    have clean := clean_append_iff update.dto update.now
      ((accountable update.id).record existing lands.present) (once update.id).shippedAt (once update.id).delivered
    have mine := updated.updatesOf update.id
    rw [if_pos rfl, UpdateCall.data] at mine
    rw [← mine] at clean
    constructor
    · intro after other asking row landing
      obtain rfl := Option.some.inj (asked.symm.trans asking)
      obtain rfl := Option.some.inj (lands.present.symm.trans landing.present)
      exact clean.mp ⟨(after update.id).shippedAt, (after update.id).delivered⟩
    · intro afresh id
      by_cases same : update.id = id
      · subst same
        obtain ⟨shippedAt, delivered⟩ := clean.mpr (afresh update asked existing lands)
        have mailed := (accountable_step shippo call accountable update.id).emails
        exact ⟨mailed.trans shippedAt, shippedAt, delivered⟩
      · have rest := updated.updatesOf id
        rw [if_neg same, List.append_nil] at rest
        have key := (findShipment_mem lands.present).2
        refine ⟨?_, rest ▸ (once id).shippedAt, rest ▸ (once id).delivered⟩
        rw [updated.emailsOf_of_ne (key ▸ same)]
        exact (once id).emails

/-- In every run from the creation of its shipments on, each is shipped once, told of once
and never taken back from DELIVERED, exactly as long as no update ships one again. -/
theorem shipped_once_iff_ships_afresh (shippo : Shippo) (orders : List ShippedOrder) (locations : List ShipFrom)
    (calls : List ShippingCall) :
    Visits (Dispatch.step shippo) (fun dispatch => ∀ id, ShippedOnce dispatch id) (.start orders locations) calls ↔
      Along (Dispatch.step shippo) ShipsAfresh (.start orders locations) calls := by
  have framed (dispatch : Dispatch) (call : ShippingCall) (_ : True) (accountable : ∀ id, Accountable dispatch id) :
      ∀ id, Accountable (dispatch.step shippo call) id :=
    accountable_step shippo call accountable
  refine visits_iff_along framed (fun _ _ _ accountable once => shippedOnce_step_iff accountable once)
    (fun _ _ => trivial) ?_ ?_
  · intro id
    refine ⟨?_, fun _ => rfl, by simp [emailsOf, Dispatch.start]⟩
    rintro shipment ⟨⟩
  · intro id
    exact ⟨by simp [emailsOf, Dispatch.start], by simp [shippings, updatesOf, Dispatch.start],
      by simp [NeverReturns, updatesOf, Dispatch.start]⟩

section Reshipped

def nowhere : Shippo where
  isConfigured := false
  buyLabel _ _ _ := none

def orderToShip : ShippedOrder where
  id := 1
  number := 1001
  email := some "buyer@example.com"
  fulfillmentStatus := .unfulfilled
  shippingAddress := .object []

def plainShipment : CreateShipmentDto where
  buyLabel := false
  lengthCm := none
  widthCm := none
  heightCm := none
  carrier := none
  service := none
  trackingNumber := none
  trackingUrl := none
  rateAmountCents := none
  weightGrams := none

def allWork : UpdateAnswers := ⟨.works, .works, .works, .works⟩

def moveTo (status : ShipmentStatus) (now : Instant) : ShippingCall :=
  .update "shp" ⟨some status, none, none, none⟩ now allWork

def shippedTwice : List ShippingCall :=
  [.create "shp" 1 plainShipment .works .works, .ship "shp" 10 allWork, moveTo .delivered 20, .ship "shp" 30 allWork]

/-- Shipped, delivered, and shipped again: two emails. -/
theorem shipped_again_after_delivery :
    ¬ Visits (Dispatch.step nowhere) (fun dispatch => ∀ id, ShippedOnce dispatch id)
      (.start [orderToShip] []) shippedTwice := by
  intro visits
  have twice : (emailsOf (run (Dispatch.step nowhere) (.start [orderToShip] []) shippedTwice) "shp").length = 2 := by
    decide
  have once := (visits.last "shp").emails
  omega

end Reshipped

end Aicos.Properties
