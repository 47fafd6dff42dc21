import Aicos.Catalog.Requests
import Aicos.Commerce.Tables
import Aicos.Shipping.Service
import Aicos.Transition.Run

namespace Aicos.Properties

open Aicos.Catalog Aicos.Commerce Aicos.Data Aicos.Shipping Aicos.Transition

/-! The default location of a tenant, from which its parcels are sent.  A location is stored with the
flag that its request asks for, in one statement that reads no other location, and the look-up of the
default one sets no order. -/

/-- Two default locations of a tenant are the same one. -/
def OneDefault (platform : Platform) : Prop :=
  ∀ row ∈ platform.locations.rows, ∀ other ∈ platform.locations.rows, row.tenantId = other.tenantId →
    row.isDefault = true → other.isDefault = true → row = other

section ShipFrom

def locationsOf (platform : Platform) (tenant : TenantId) : List Location :=
  platform.locations.rows.filter fun row => row.tenantId = tenant

/-- The look-up of `tryBuyLabel`, in locations of its tenant as the database lists them. -/
def findShipFrom (listed : List Location) : Option Location :=
  listed.find? fun location => location.isDefault ∧ location.addressId.isSome

/-- A location with its address. -/
def shipFromOf (address : AddressId → LocationAddress) (location : Location) : ShipFrom where
  isDefault := location.isDefault
  address := location.addressId.map address

/-- In whatever order the locations of a tenant are listed, the same one is found and the same label
is bought. -/
def ShipFromSettled (platform : Platform) : Prop :=
  ∀ tenant listed, listed.Perm (locationsOf platform tenant) →
    findShipFrom listed = findShipFrom (locationsOf platform tenant) ∧
    ∀ address shippo shippingAddress dto,
      tryBuyLabel shippo (listed.map (shipFromOf address)) shippingAddress dto =
        tryBuyLabel shippo ((locationsOf platform tenant).map (shipFromOf address)) shippingAddress dto

theorem find?_shipFromOf (address : AddressId → LocationAddress) (listed : List Location) :
    (listed.map (shipFromOf address)).find? (fun location => location.isDefault ∧ location.address.isSome) =
      (findShipFrom listed).map (shipFromOf address) := by
  rw [List.find?_map, findShipFrom]
  simp only [Function.comp_def, shipFromOf, Option.isSome_map]

theorem OneDefault.shipFromSettled {platform : Platform} (one : OneDefault platform) : ShipFromSettled platform := by
  intro tenant listed perm
  have mine : ∀ row ∈ listed, row ∈ platform.locations.rows ∧ row.tenantId = tenant := by
    intro row member
    obtain ⟨stored, same⟩ := List.mem_filter.mp (perm.mem_iff.mp member)
    exact ⟨stored, of_decide_eq_true same⟩
  have found : findShipFrom listed = findShipFrom (locationsOf platform tenant) := by
    refine find?_eq_of_perm perm fun row member other present wanted wanted' => ?_
    obtain ⟨stored, owner⟩ := mine row member
    obtain ⟨stored', owner'⟩ := mine other present
    exact one row stored other stored' (owner.trans owner'.symm) (of_decide_eq_true wanted).1
      (of_decide_eq_true wanted').1
  refine ⟨found, fun address shippo shippingAddress dto => ?_⟩
  unfold tryBuyLabel
  rw [find?_shipFromOf, find?_shipFromOf, found]

end ShipFrom

section Create

variable {platform after : Platform} {tenant : TenantId} {id : LocationId}

/-- The key of the location is free, and its address is there. -/
structure Storable (platform : Platform) (id : LocationId) (dto : CreateLocationDto) : Prop where
  fresh : platform.locations.find? id = none
  filled : dto.addressId ≠ .empty
  addressed : platform.addresses.admits dto.addressId.column = true

theorem createLocation_ok_iff {dto : CreateLocationDto} :
    Catalog.createLocation tenant platform id dto = .ok after ↔
      Storable platform id dto ∧
        after = { platform with locations := platform.locations.insert (locationOf id tenant dto) } := by
  unfold Catalog.createLocation Platform.insertLocation
  rw [fromDb_ok, map_eq_ok]
  constructor
  · intro inserted
    obtain ⟨locations, ran, rfl⟩ := inserted
    obtain ⟨fresh, _, foreign, rfl⟩ := Table.tryInsert_ok_iff.mp ran
    obtain ⟨filled, addressed⟩ := of_decide_eq_true foreign
    exact ⟨⟨fresh, by simpa using filled, addressed⟩, rfl⟩
  · intro both
    obtain ⟨storable, rfl⟩ := both
    refine ⟨_, Table.tryInsert_ok_iff.mpr ⟨storable.fresh, fun _ _ => rfl, ?_, rfl⟩, rfl⟩
    exact decide_eq_true ⟨by simpa using storable.filled, storable.addressed⟩

/-- A default location more is the only one where the tenant had none. -/
theorem OneDefault.insert_iff {row : Location} (one : OneDefault platform)
    (fresh : platform.locations.find? row.id = none) :
    OneDefault { platform with locations := platform.locations.insert row } ↔
      (row.isDefault = true → ∀ other ∈ platform.locations.rows, other.tenantId = row.tenantId →
        other.isDefault = false) := by
  have rows : (platform.locations.insert row).rows = platform.locations.rows ++ [row] := Table.rows_insert fresh
  have absent : row ∉ platform.locations.rows := by
    intro present
    cases fresh.symm.trans (Table.find?_of_mem present)
  unfold OneDefault
  simp only [rows, List.mem_append, List.mem_singleton]
  constructor
  · intro both flagged other member same
    refine Bool.eq_false_iff.mpr fun alsoFlagged => ?_
    exact absent (both other (.inl member) row (.inr rfl) same alsoFlagged flagged ▸ member)
  · intro alone left stored right stored' same flagged flagged'
    rcases stored with old | rfl
    · rcases stored' with old' | rfl
      · exact one left old right old' same flagged flagged'
      · rw [alone flagged' left old same] at flagged
        cases flagged
    · rcases stored' with old' | rfl
      · rw [alone flagged right old' same.symm] at flagged'
        cases flagged'
      · rfl

theorem one_default_create_iff {nfkd : String → String} {dto : CreateLocationDto} (one : OneDefault platform) :
    OneDefault (Catalog.step nfkd platform ⟨tenant, .createLocation id dto⟩) ↔
      (Storable platform id dto → dto.isDefault = some true →
        ∀ other ∈ platform.locations.rows, other.tenantId = tenant → other.isDefault = false) := by
  have flag : (locationOf id tenant dto).isDefault = true ↔ dto.isDefault = some true := by
    unfold locationOf
    rcases dto.isDefault with _ | _ | _ <;> simp
  rw [step_iff nfkd one, ← flag]
  constructor
  · intro kept storable
    have inserted := kept _ (createLocation_ok_iff.mpr ⟨storable, rfl⟩)
    exact (one.insert_iff storable.fresh).mp inserted
  · intro alone after ran
    obtain ⟨storable, rfl⟩ := createLocation_ok_iff.mp ran
    exact (one.insert_iff storable.fresh).mpr (alone storable)

end Create

section Update

variable {platform after : Platform} {tenant : TenantId} {id : LocationId}

/-- The tenant has the location, and the address it is given is there. -/
structure Changeable (platform : Platform) (tenant : TenantId) (id : LocationId) (dto : UpdateLocationDto)
    (row : Location) : Prop where
  shown : platform.locations.visible tenant id = some row
  filled : dto.addressId ≠ .empty
  addressed : platform.addresses.admits (dto.addressId.relation.getD row.addressId) = true

theorem updateLocation_ok_iff {dto : UpdateLocationDto} :
    Catalog.updateLocation tenant platform id dto = .ok after ↔
      ∃ row, Changeable platform tenant id dto row ∧
        after = { platform with locations := platform.locations.update id (locationChange dto) } := by
  unfold Catalog.updateLocation findLocation Platform.updateLocation
  simp only [bind_eq_ok, orThrow_ok, fromDb_ok, map_eq_ok]
  constructor
  · intro updated
    obtain ⟨_, _, locations, ran, rfl⟩ := updated
    obtain ⟨row, shown, _, foreign, rfl⟩ := Table.tryUpdate_ok_iff.mp ran
    obtain ⟨filled, addressed⟩ := of_decide_eq_true foreign
    exact ⟨row, ⟨shown, by simpa using filled, addressed⟩, rfl⟩
  · intro both
    obtain ⟨row, changeable, rfl⟩ := both
    have shown := changeable.shown
    refine ⟨row, shown, _, Table.tryUpdate_ok_iff.mpr ⟨row, shown, fun _ _ _ => rfl, ?_, rfl⟩, rfl⟩
    exact decide_eq_true ⟨by simpa using changeable.filled, changeable.addressed⟩

section Row

variable {dto : UpdateLocationDto} {row : Location} (found : platform.locations.find? id = some row)
include found

theorem changed_mem :
    (locationChange dto).apply row ∈ (platform.locations.update id (locationChange dto)).rows := by
  obtain ⟨member, key⟩ := Table.find?_some found
  exact Table.mem_modify.mpr ⟨row, member, if_pos (decide_eq_true key)⟩

theorem mem_update_location {other : Location} :
    other ∈ (platform.locations.update id (locationChange dto)).rows ↔
      other = (locationChange dto).apply row ∨ (other ∈ platform.locations.rows ∧ other.id ≠ id) := by
  constructor
  · intro member
    obtain ⟨old, present, result⟩ := Table.mem_modify.mp member
    by_cases mine : TenantRow.id old = id
    · have again : platform.locations.find? id = some old := mine ▸ Table.find?_of_mem present
      obtain rfl := Option.some.inj (found.symm.trans again)
      rw [if_pos (decide_eq_true mine)] at result
      exact .inl result.symm
    · rw [if_neg fun hit => mine (of_decide_eq_true hit)] at result
      exact .inr (result ▸ ⟨present, mine⟩)
  · intro either
    rcases either with rfl | ⟨present, apart⟩
    · exact changed_mem found
    · exact Table.mem_modify.mpr ⟨other, present, if_neg fun hit => apart (of_decide_eq_true hit)⟩

end Row

/-- A location that becomes the default one is the only one where no other was. -/
theorem OneDefault.update_iff {dto : UpdateLocationDto} {row : Location} (one : OneDefault platform)
    (shown : platform.locations.visible tenant id = some row) :
    OneDefault { platform with locations := platform.locations.update id (locationChange dto) } ↔
      (dto.isDefault = some true → ∀ other ∈ platform.locations.rows, other.tenantId = tenant → other.id ≠ id →
        other.isDefault = false) := by
  obtain ⟨found, owner⟩ := Table.visible_eq_some.mp shown
  obtain ⟨member, key⟩ := Table.find?_some found
  have changedOwner : ((locationChange dto).apply row).tenantId = tenant := owner
  constructor
  · intro both asked other present same apart
    refine Bool.eq_false_iff.mpr fun flagged => ?_
    have kept : other ∈ (platform.locations.update id (locationChange dto)).rows :=
      (mem_update_location found).mpr (.inr ⟨present, apart⟩)
    have flag : ((locationChange dto).apply row).isDefault = true := by simp [locationChange, asked]
    have merged := both other kept _ (changed_mem found) (same.trans changedOwner.symm) flagged flag
    exact apart ((congrArg Location.id merged).trans key)
  · intro alone
    have beside : ∀ other ∈ platform.locations.rows, other.id ≠ id → other.tenantId = tenant →
        other.isDefault = true → ((locationChange dto).apply row).isDefault = true → False := by
      intro other present apart same flagged changed
      cases asked : dto.isDefault with
      | none =>
          have before : row.isDefault = true := by simpa [locationChange, asked] using changed
          have merged := one other present row member (same.trans owner.symm) flagged before
          exact apart ((congrArg Location.id merged).trans key)
      | some value =>
          have value : value = true := by simpa [locationChange, asked] using changed
          subst value
          rw [alone asked other present same apart] at flagged
          cases flagged
    intro left stored right stored' same flagged flagged'
    rcases (mem_update_location found).mp stored with rfl | ⟨old, apart⟩
    · rcases (mem_update_location found).mp stored' with rfl | ⟨old', apart'⟩
      · rfl
      · exact (beside right old' apart' (same.symm.trans changedOwner) flagged' flagged).elim
    · rcases (mem_update_location found).mp stored' with rfl | ⟨old', apart'⟩
      · exact (beside left old apart (same.trans changedOwner) flagged flagged').elim
      · exact one left old right old' same flagged flagged'

theorem one_default_update_iff {nfkd : String → String} {dto : UpdateLocationDto} (one : OneDefault platform) :
    OneDefault (Catalog.step nfkd platform ⟨tenant, .updateLocation id dto⟩) ↔
      ∀ row, Changeable platform tenant id dto row → dto.isDefault = some true →
        ∀ other ∈ platform.locations.rows, other.tenantId = tenant → other.id ≠ id → other.isDefault = false := by
  rw [step_iff nfkd one]
  constructor
  · intro kept row changeable
    have updated := kept _ (updateLocation_ok_iff.mpr ⟨row, changeable, rfl⟩)
    exact (one.update_iff changeable.shown).mp updated
  · intro alone after ran
    obtain ⟨row, changeable, rfl⟩ := updateLocation_ok_iff.mp ran
    exact (one.update_iff changeable.shown).mpr (alone row changeable)

end Update

theorem OneDefault.remove {nfkd : String → String} {platform : Platform} {tenant : TenantId} {id : LocationId}
    (one : OneDefault platform) : OneDefault (Catalog.step nfkd platform ⟨tenant, .removeLocation id⟩) := by
  refine step_keeps nfkd one fun after ran => ?_
  obtain ⟨_, _, ran⟩ := bind_eq_ok.mp ran
  have deleted := fromDb_ok.mp ran
  unfold Platform.deleteLocation at deleted
  split at deleted
  · cases deleted
  · split at deleted
    · cases deleted
    · cases deleted
      intro row member other present
      exact one row (List.mem_of_mem_filter member) other (List.mem_of_mem_filter present)

/-- The requests of the location service. -/
def ChangesLocations (action : CatalogAction) : Prop :=
  match action.request with
  | .createLocation _ _ | .updateLocation _ _ | .removeLocation _ => True
  | _ => False

/-- A request that goes through and asks for the default flag meets no other default location of its
tenant. -/
def AsksAlone (platform : Platform) (action : CatalogAction) : Prop :=
  match action.request with
  | .createLocation id dto =>
      Storable platform id dto → dto.isDefault = some true →
        ∀ other ∈ platform.locations.rows, other.tenantId = action.tenant → other.isDefault = false
  | .updateLocation id dto =>
      ∀ row, Changeable platform action.tenant id dto row → dto.isDefault = some true →
        ∀ other ∈ platform.locations.rows, other.tenantId = action.tenant → other.id ≠ id → other.isDefault = false
  | _ => True

theorem one_default_step_iff {nfkd : String → String} {platform : Platform} {action : CatalogAction}
    (changes : ChangesLocations action) (one : OneDefault platform) :
    OneDefault (Catalog.step nfkd platform action) ↔ AsksAlone platform action := by
  obtain ⟨tenant, request⟩ := action
  cases request with
  | createLocation id dto => exact one_default_create_iff one
  | updateLocation id dto => exact one_default_update_iff one
  | removeLocation id => exact iff_of_true one.remove trivial
  | _ => cases changes

/-- Where a tenant starts with one default location at most, it stays so, and where its parcels are
sent from is settled, exactly as long as no request sets the flag beside another default location. -/
theorem one_default_location_iff (nfkd : String → String) {start : Platform} {trace : List CatalogAction}
    (one : OneDefault start) (locations : ∀ action ∈ trace, ChangesLocations action) :
    Visits (Catalog.step nfkd) (fun platform => OneDefault platform ∧ ShipFromSettled platform) start trace ↔
      Along (Catalog.step nfkd) AsksAlone start trace := by
  have framed : ∀ (platform : Platform) (action : CatalogAction), ChangesLocations action → True → True :=
    fun _ _ _ _ => trivial
  refine visits_iff_along framed ?_ locations trivial ⟨one, one.shipFromSettled⟩
  intro platform action changes _ held
  have stepped : OneDefault (Catalog.step nfkd platform action) ↔ AsksAlone platform action :=
    one_default_step_iff changes held.1
  constructor
  · intro both
    exact stepped.mp both.1
  · intro alone
    have one := stepped.mpr alone
    exact ⟨one, one.shipFromSettled⟩

section Depots

def twoAddresses : Platform :=
  { emptyShop with addresses := (Table.empty.insert ⟨1, 1⟩).insert ⟨2, 1⟩ }

def openDepot (id : LocationId) (isDefault : Option Bool) : CatalogAction where
  tenant := 1
  request := .createLocation id { name := "Depot", isDefault, addressId := .id id }

def twoDepots : List CatalogAction :=
  [openDepot 1 (some true), openDepot 2 none]

theorem depots_settled_iff :
    (Visits (Catalog.step id) (fun platform => OneDefault platform ∧ ShipFromSettled platform) twoAddresses twoDepots ↔
      Along (Catalog.step id) AsksAlone twoAddresses twoDepots) ∧
    Visits (Catalog.step id) (fun platform => OneDefault platform ∧ ShipFromSettled platform) twoAddresses
      twoDepots := by
  have one : OneDefault twoAddresses := List.forall_mem_nil _
  have settled : Visits (Catalog.step id) (fun platform => OneDefault platform ∧ ShipFromSettled platform) twoAddresses
      twoDepots ↔ Along (Catalog.step id) AsksAlone twoAddresses twoDepots :=
    one_default_location_iff id one (by simp [twoDepots, openDepot, ChangesLocations])
  refine ⟨settled, settled.mpr ⟨fun _ _ other member => ?_, fun _ asked => ?_, trivial⟩⟩
  · cases member
  · cases asked

/-- Two depots that are both created as the default one: which of them is found depends on the order
in which they are listed. -/
theorem two_default_depots :
    ¬ Visits (Catalog.step id) (fun platform => OneDefault platform ∧ ShipFromSettled platform) twoAddresses
        [openDepot 1 (some true), openDepot 2 (some true)] ∧
      ¬ ShipFromSettled (run (Catalog.step id) twoAddresses [openDepot 1 (some true), openDepot 2 (some true)]) := by
  have unsettled : ¬ ShipFromSettled
      (run (Catalog.step id) twoAddresses [openDepot 1 (some true), openDepot 2 (some true)]) := by
    intro settled
    have swapped := settled 1 [⟨2, 1, "Depot", true, some 2⟩, ⟨1, 1, "Depot", true, some 1⟩] (by decide)
    exact absurd swapped.1 (by decide)
  exact ⟨fun visits => unsettled visits.last.2, unsettled⟩

end Depots

end Aicos.Properties
