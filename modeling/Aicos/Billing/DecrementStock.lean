import Aicos.Inventory.Statements
import Mathlib.Data.List.Sort

namespace Aicos.Billing

open Aicos.Commerce Aicos.Inventory Aicos.Transaction Aicos.Transaction.Program

/-! `BillingProcessor.decrementStock`: a paid order takes its units from the
inventory items of each variant, the fullest item first. -/

/-- The warning for a line sold beyond tracked stock. -/
structure Shortfall where
  item : OrderItem
  remaining : Int
deriving DecidableEq

/-- `findMany` by variant, `orderBy: { onHand: 'desc' }`. -/
def stocksByOnHand (variantId : VariantId) (rows : Inventory) : List InventoryItem :=
  (rows.items.filter fun item => item.variantId = variantId).insertionSort
    fun first second => first.onHand ≥ second.onHand

def saleMovement (orderId : OrderId) (stock : InventoryItem) (take : Int) : StockMovement :=
  { inventoryItemId := stock.id
    locationId := stock.locationId
    type := .sale
    quantity := -take
    reason := some "Order paid"
    ref := .order orderId }

/-- The inner loop: what is still missing after the items have been visited. -/
def takeFrom (orderId : OrderId) (now : Instant) : List InventoryItem → Int → StockProgram Int
  | [], remaining => pure remaining
  | stock :: stocks, remaining =>
      if remaining ≤ 0 then pure remaining
      else
        let take := min stock.onHand remaining
        -- an item at or below zero is passed over
        if take ≤ 0 then takeFrom orderId now stocks remaining
        else do
          exec (.incrementOnHand stock.id (-take) now)
          exec (.createMovement (saleMovement orderId stock take))
          takeFrom orderId now stocks (remaining - take)

def decrementStock (orderId : OrderId) (now : Instant) :
    List OrderItem → StockProgram (List Shortfall)
  | [] => pure []
  | item :: items =>
      match item.variantId with
      | none => decrementStock orderId now items
      | some variantId => do
          let stocks ← query (stocksByOnHand variantId)
          let remaining ← takeFrom orderId now stocks item.quantity
          let shortfalls ← decrementStock orderId now items
          pure (if remaining > 0 then { item, remaining } :: shortfalls else shortfalls)

end Aicos.Billing
