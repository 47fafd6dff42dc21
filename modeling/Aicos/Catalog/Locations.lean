import Aicos.Catalog.Schema

namespace Aicos.Catalog

open Aicos.Commerce Aicos.Data

/-! `LocationsService`. -/

structure CreateLocationDto where
  name : String
  isDefault : Option Bool
  addressId : IdField
deriving DecidableEq

structure UpdateLocationDto where
  name : Option String
  isDefault : Option Bool
  addressId : IdField
deriving DecidableEq

namespace Platform

variable (platform : Platform)

def insertLocation (dangling : Bool) (row : Location) : Except DbError Platform :=
  (platform.locations.tryInsert (fun _ _ => false)
      (fun row => ¬ dangling ∧ platform.addresses.admits row.addressId) row).map
    fun locations => { platform with locations }

def updateLocation (dangling : Bool) (tenant : TenantId) (id : LocationId) (change : Change Location) :
    Except DbError Platform :=
  (platform.locations.tryUpdate (fun _ _ => false)
      (fun row => ¬ dangling ∧ platform.addresses.admits row.addressId) tenant id change).map
    fun locations => { platform with locations }

/-- The required relations of items and movements restrict the delete. -/
def deleteLocation (tenant : TenantId) (id : LocationId) : Except DbError Platform :=
  match platform.locations.visible tenant id with
  | none => .error .recordNotFound
  | some _ =>
      if platform.items.rows.any (fun item => item.row.locationId = id) ∨
          platform.movements.any (fun movement => movement.row.locationId = id) then .error .foreignKey
      else .ok { platform with locations := platform.locations.delete id }

variable {platform} {after : Platform} {tenant : TenantId}

theorem insertLocation_ok {dangling : Bool} {row : Location}
    (inserted : platform.insertLocation dangling row = .ok after) :
    platform.locations.find? row.id = none ∧
      after = { platform with locations := platform.locations.insert row } := by
  obtain ⟨locations, ran, rfl⟩ := map_eq_ok.mp inserted
  obtain ⟨fresh, _, rfl⟩ := Table.tryInsert_ok ran
  exact ⟨fresh, rfl⟩

theorem updateLocation_ok {dangling : Bool} {id : LocationId} {change : Change Location}
    (updated : platform.updateLocation dangling tenant id change = .ok after) :
    ∃ row, platform.locations.visible tenant id = some row ∧
      after = { platform with locations := platform.locations.update id change } := by
  obtain ⟨locations, ran, rfl⟩ := map_eq_ok.mp updated
  obtain ⟨row, shown, _, rfl⟩ := Table.tryUpdate_ok ran
  exact ⟨row, shown, rfl⟩

end Platform

def locationOf (id : LocationId) (tenant : TenantId) (dto : CreateLocationDto) : Location where
  id := id
  tenantId := tenant
  name := dto.name
  isDefault := dto.isDefault.getD false
  addressId := dto.addressId.column

/-- `update` writes the `addressId` it is given, `null` included. -/
def locationChange (dto : UpdateLocationDto) : Change Location where
  apply := fun row => { row with
    name := dto.name.getD row.name
    isDefault := dto.isDefault.getD row.isDefault
    addressId := dto.addressId.relation.getD row.addressId }
  id := fun _ => rfl
  tenantId := fun _ => rfl

section Service

variable (tenant : TenantId) (platform : Platform)

def createLocation (id : LocationId) (dto : CreateLocationDto) : CatalogTx Platform :=
  fromDb (platform.insertLocation (dto.addressId = .empty) (locationOf id tenant dto))

def findLocation (id : LocationId) : CatalogTx Location :=
  orThrow (.notFound "Inventory location not found") (platform.locations.visible tenant id)

def updateLocation (id : LocationId) (dto : UpdateLocationDto) : CatalogTx Platform := do
  let _ ← findLocation tenant platform id
  fromDb (platform.updateLocation (dto.addressId = .empty) tenant id (locationChange dto))

def removeLocation (id : LocationId) : CatalogTx Platform := do
  let _ ← findLocation tenant platform id
  fromDb (platform.deleteLocation tenant id)

end Service

end Aicos.Catalog
