import Aicos.Inventory.Statements
import Mathlib.Data.List.Sort

namespace Aicos.Returns

open Aicos.Commerce Aicos.Inventory Aicos.Transaction Aicos.Transaction.Program

/-! `ReturnsService.restock`: returned units go to the inventory item of the
variant that changed last. -/

/-- `findFirst` by variant, `orderBy: { updatedAt: 'desc' }`. -/
def latestStock (variantId : VariantId) (rows : Inventory) : Option InventoryItem :=
  ((rows.items.filter fun item => item.variantId = variantId).insertionSort
    fun first second => first.updatedAt ≥ second.updatedAt).head?

def returnMovement (returnId : ReturnId) (stock : InventoryItem) (quantity : Nat) : StockMovement :=
  { inventoryItemId := stock.id
    locationId := stock.locationId
    type := .return
    quantity
    reason := some "Return restock"
    ref := .return returnId }

def restock (returnId : ReturnId) (variantId : VariantId) (quantity : Nat) (now : Instant) :
    StockProgram Unit := do
  match ← query (latestStock variantId) with
  | none => pure ()
  | some stock =>
      exec (.incrementOnHand stock.id quantity now)
      exec (.createMovement (returnMovement returnId stock quantity))

/-- The restocking loop of `ReturnsService.refund`. -/
def restockItems (returnId : ReturnId) (now : Instant) : List ReturnItem → StockProgram Unit
  | [] => pure ()
  | line :: lines =>
      match line.orderItem.variantId with
      | none => restockItems returnId now lines
      | some variantId => do
          restock returnId variantId line.quantity now
          restockItems returnId now lines

end Aicos.Returns
