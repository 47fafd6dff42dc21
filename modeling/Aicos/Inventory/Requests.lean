import Aicos.Inventory.Service
import Aicos.Inventory.Ledger
import Aicos.Billing.DecrementStock
import Aicos.Returns.Restock

namespace Aicos.Inventory

open Aicos.Commerce Aicos.Transaction Aicos.Transaction.ReadCommitted

/-! The transactions that read and write stock, and their interleavings. -/

inductive StockRequest where
  | create (id : InventoryItemId) (dto : CreateInventoryItemDto) (now : Instant)
  | findOne (id : InventoryItemId)
  | update (id : InventoryItemId) (dto : UpdateInventoryItemDto) (now : Instant)
  | adjust (id : InventoryItemId) (dto : CreateAdjustmentDto) (now : Instant)
  | decrementStock (orderId : OrderId) (items : List OrderItem) (now : Instant)
  | restock (returnId : ReturnId) (lines : List ReturnItem) (now : Instant)

/-- The statements of a request's transaction; its result is the caller's alone. -/
def StockRequest.program : StockRequest → StockProgram Unit
  | .create id dto now => (Inventory.create id dto now).discard
  | .findOne id => (Inventory.findOne id).discard
  | .update id dto now => (Inventory.update id dto now).discard
  | .adjust id dto now => (Inventory.adjust id dto now).discard
  | .decrementStock orderId items now => (Billing.decrementStock orderId now items).discard
  | .restock returnId lines now => Returns.restockItems returnId now lines

/-- What an `INTEGER` column holds. -/
def fitsColumn (number : Int) : Bool :=
  -2147483648 ≤ number ∧ number ≤ 2147483647

/-- The columns hold what a statement writes. -/
def StockWrite.fits : StockWrite → Inventory → Bool
  | .createItem item, _ =>
      [item.onHand, item.reserved, item.reorderPoint, item.reorderQty].all fitsColumn
  | .incrementOnHand id delta _, rows =>
      rows.items.all fun item => item.id ≠ id ∨ fitsColumn (item.onHand + delta)
  | .setReorder _ reorderPoint reorderQty _, _ => reorderPoint.all fitsColumn ∧ reorderQty.all fitsColumn
  | .createMovement movement, _ => fitsColumn movement.quantity

/-- The rows with the range of their columns: the database refuses what is beyond it. -/
def columnStore : Transaction.Store Inventory StockWrite StockKey :=
  { stockStore with admits := fun statement rows => statement.admits rows && statement.fits rows }

/-- What the columns hold is written as if they held anything. -/
theorem alone_of_columns {α : Type} {program : StockProgram α} {rows after : Inventory} {value : α}
    (ran : program.alone columnStore rows = .ok (value, after)) : program.alone stockStore rows = .ok (value, after) := by
  induction program generalizing rows with
  | done result => exact ran
  | fail error => cases ran
  | read next ih => exact ih rows ran
  | write statement next ih =>
      simp only [Program.alone] at ran ⊢
      split at ran
      · rename_i admitted
        have held : stockStore.admits statement rows = true := (Bool.and_eq_true_iff.mp admitted).1
        rw [if_pos held]
        exact ih ran
      · cases ran

abbrev StockState := ReadCommitted.State Inventory StockWrite StockKey HttpError

abbrev StockAction := ReadCommitted.Action Inventory StockWrite HttpError

/-- A schedule that starts stock requests only: any number of them, with the
statements in any order, each transaction free to abort anywhere. -/
def StockSchedule (schedule : List StockAction) : Prop :=
  ∀ action ∈ schedule, Starts (fun program => ∃ request : StockRequest, program = request.program) action

end Aicos.Inventory
