import Aicos.Inventory.Statements

namespace Aicos.Inventory

open Aicos.Commerce Aicos.Transaction Aicos.Transaction.Program

/-! `InventoryService`: the transactions that seed, retune and adjust stock. -/

structure InventoryItemWithAvailable where
  item : InventoryItem
  available : Int

def withAvailable (item : InventoryItem) : InventoryItemWithAvailable :=
  { item, available := item.onHand - item.reserved }

/-- `CreateInventoryItemDto`; its `@Min(0)` quantities are naturals. -/
structure CreateInventoryItemDto where
  variantId : VariantId
  locationId : LocationId
  onHand : Option Nat
  reorderPoint : Option Nat
  reorderQty : Option Nat

structure UpdateInventoryItemDto where
  reorderPoint : Option Nat
  reorderQty : Option Nat

/-- `CreateAdjustmentDto`: a signed, non-zero change of `onHand`. -/
structure CreateAdjustmentDto where
  variantId : VariantId
  locationId : LocationId
  delta : Int
  type : StockMovementType
  reason : Option String
  delta_ne_zero : delta ≠ 0

def negativeAllowedTypes : List StockMovementType := [.adjustment]

def findSlot (variantId : VariantId) (locationId : LocationId) (rows : Inventory) :
    Option InventoryItem :=
  rows.items.find? fun item => item.variantId = variantId ∧ item.locationId = locationId

def findItem (id : InventoryItemId) (rows : Inventory) : Option InventoryItem :=
  rows.items.find? fun item => item.id = id

def newItem (id : InventoryItemId) (variantId : VariantId) (locationId : LocationId)
    (onHand reorderPoint reorderQty : Int) (now : Instant) : InventoryItem :=
  { id, variantId, locationId, onHand, reserved := 0, reorderPoint, reorderQty, updatedAt := now }

def initialMovement (created : InventoryItem) : StockMovement :=
  { inventoryItemId := created.id
    locationId := created.locationId
    type := .receive
    quantity := created.onHand
    reason := some "Initial stock"
    ref := .manual }

def seed (created : InventoryItem) : StockProgram InventoryItemWithAvailable := do
  exec (.createItem created)
  if created.onHand > 0 then
    exec (.createMovement (initialMovement created))
  pure (withAvailable created)

/-- The transaction of `InventoryService.create`; `id` is the cuid of the row. -/
def create (id : InventoryItemId) (dto : CreateInventoryItemDto) (now : Instant) :
    StockProgram InventoryItemWithAvailable := do
  match ← query (findSlot dto.variantId dto.locationId) with
  | some _ =>
      throw (.badRequest "An inventory item already exists for this variant at this location")
  | none =>
      seed (newItem id dto.variantId dto.locationId (dto.onHand.getD 0 : Nat)
        (dto.reorderPoint.getD 0 : Nat) (dto.reorderQty.getD 0 : Nat) now)

def findOne (id : InventoryItemId) : StockProgram InventoryItemWithAvailable := do
  match ← query (findItem id) with
  | none => throw (.notFound "Inventory item not found")
  | some item => pure (withAvailable item)

/-- The second transaction of `InventoryService.update`; the first is `findOne`. -/
def update (id : InventoryItemId) (dto : UpdateInventoryItemDto) (now : Instant) :
    StockProgram (Option InventoryItemWithAvailable) := do
  exec (.setReorder id (dto.reorderPoint.map Int.ofNat) (dto.reorderQty.map Int.ofNat) now)
  let item ← query (findItem id)
  pure (item.map withAvailable)

def adjustmentRefusal (item : InventoryItem) (dto : CreateAdjustmentDto) : HttpError :=
  .badRequest s!"Adjustment would drive on-hand below 0 (current {item.onHand}, delta {dto.delta}); movement type {dto.type.text} does not permit negative stock"

/-- Step 1 of `InventoryService.adjust`: find the item of the pair or create it empty. -/
def findOrCreate (id : InventoryItemId) (dto : CreateAdjustmentDto) (now : Instant) :
    StockProgram InventoryItem := do
  match ← query (findSlot dto.variantId dto.locationId) with
  | some existing => pure existing
  | none =>
      let created := newItem id dto.variantId dto.locationId 0 0 0 now
      exec (.createItem created)
      pure created

def adjustmentMovement (item : InventoryItem) (dto : CreateAdjustmentDto) : StockMovement :=
  { inventoryItemId := item.id
    locationId := item.locationId
    type := dto.type
    quantity := dto.delta
    reason := dto.reason
    ref := .manual }

/-- Steps 2 and 3 of `InventoryService.adjust`, with the check before them. -/
def applyDelta (item : InventoryItem) (dto : CreateAdjustmentDto) (now : Instant) :
    StockProgram (Option InventoryItemWithAvailable × StockMovement) :=
  if item.onHand + dto.delta < 0 ∧ dto.type ∉ negativeAllowedTypes then
    throw (adjustmentRefusal item dto)
  else do
    exec (.createMovement (adjustmentMovement item dto))
    exec (.incrementOnHand item.id dto.delta now)
    let updated ← query (findItem item.id)
    pure (updated.map withAvailable, adjustmentMovement item dto)

/-- The transaction of `InventoryService.adjust`. -/
def adjust (id : InventoryItemId) (dto : CreateAdjustmentDto) (now : Instant) :
    StockProgram (Option InventoryItemWithAvailable × StockMovement) := do
  let item ← findOrCreate id dto now
  applyDelta item dto now

end Aicos.Inventory
