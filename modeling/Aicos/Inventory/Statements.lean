import Aicos.Commerce.Schema
import Aicos.Data.Rows
import Aicos.Transaction.Program

namespace Aicos.Inventory

open Aicos.Commerce Aicos.Data Aicos.Transaction

/-! The statements that write stock, and what they do to the rows. -/

inductive StockWrite where
  | createItem (item : InventoryItem)
  /-- `onHand: { increment: delta }`; a decrement is a negative increment. -/
  | incrementOnHand (id : InventoryItemId) (delta : Int) (now : Instant)
  | setReorder (id : InventoryItemId) (reorderPoint reorderQty : Option Int) (now : Instant)
  | createMovement (movement : StockMovement)
deriving DecidableEq

/-- A row lock, or the entry of the unique index on `(variantId, locationId)`. -/
inductive StockKey where
  | item (id : InventoryItemId)
  | slot (variantId : VariantId) (locationId : LocationId)
deriving DecidableEq

def addOnHand (delta : Int) (now : Instant) (item : InventoryItem) : InventoryItem :=
  { item with onHand := item.onHand + delta, updatedAt := now }

def changeReorder (reorderPoint reorderQty : Option Int) (now : Instant) (item : InventoryItem) :
    InventoryItem :=
  { item with
    reorderPoint := reorderPoint.getD item.reorderPoint
    reorderQty := reorderQty.getD item.reorderQty
    updatedAt := now }

def StockWrite.apply : StockWrite → Inventory → Inventory
  | .createItem item, rows => { rows with items := rows.items ++ [item] }
  | .incrementOnHand id delta now, rows =>
      { rows with items := updateWhere (fun item => item.id = id) (addOnHand delta now) rows.items }
  | .setReorder id reorderPoint reorderQty now, rows =>
      { rows with
        items := updateWhere (fun item => item.id = id)
          (changeReorder reorderPoint reorderQty now) rows.items }
  | .createMovement movement, rows => { rows with movements := rows.movements ++ [movement] }

/-- The primary key and the unique `(variantId, locationId)` for an insert; the
row an update names has to exist. -/
def StockWrite.admits : StockWrite → Inventory → Bool
  | .createItem item, rows =>
      rows.items.all fun other =>
        other.id ≠ item.id ∧ ¬ (other.variantId = item.variantId ∧ other.locationId = item.locationId)
  | .incrementOnHand id _ _, rows => rows.items.any fun item => item.id = id
  | .setReorder id _ _ _, rows => rows.items.any fun item => item.id = id
  | .createMovement _, _ => true

def StockWrite.locks : StockWrite → List StockKey
  | .createItem item => [.item item.id, .slot item.variantId item.locationId]
  | .incrementOnHand id _ _ => [.item id]
  | .setReorder id _ _ _ => [.item id]
  | .createMovement _ => []

def stockStore : Transaction.Store Inventory StockWrite StockKey where
  apply := StockWrite.apply
  admits := StockWrite.admits
  locks := StockWrite.locks

abbrev StockProgram (α : Type) := Program Inventory StockWrite HttpError α

end Aicos.Inventory
