import Aicos.Inventory.Interleaving
import Mathlib.Data.List.Nodup

namespace Aicos.Inventory

open Aicos.Commerce Aicos.Data Aicos.Transaction

/-! The stock ledger: `onHand` against the sum of the movements. -/

def moved (movements : List StockMovement) (id : InventoryItemId) : Int :=
  totalWhere (fun movement => movement.inventoryItemId = id) (·.quantity) movements

/-- The books are right up to `gap`: what has been added to an item without a
movement, less what has been moved without being added. -/
structure LedgeredUpTo (gap : InventoryItemId → Int) (rows : Inventory) : Prop where
  ids : (rows.items.map (·.id)).Nodup
  balance : ∀ item ∈ rows.items, item.onHand = moved rows.movements item.id + gap item.id
  located : ∀ movement ∈ rows.movements, ∃ item ∈ rows.items,
    item.id = movement.inventoryItemId ∧ item.locationId = movement.locationId
  absent : ∀ id, (∀ item ∈ rows.items, item.id ≠ id) → gap id = 0

def Ledgered (rows : Inventory) : Prop :=
  LedgeredUpTo (fun _ => 0) rows

theorem LedgeredUpTo.congr {gap other : InventoryItemId → Int} {rows : Inventory}
    (ledgered : LedgeredUpTo gap rows) (same : ∀ id, gap id = other id) : LedgeredUpTo other rows := by
  obtain rfl : gap = other := funext same
  exact ledgered

theorem Ledgered.location {rows : Inventory} (ledgered : Ledgered rows) {item : InventoryItem}
    {movement : StockMovement} (present : item ∈ rows.items) (posted : movement ∈ rows.movements)
    (refers : movement.inventoryItemId = item.id) : movement.locationId = item.locationId := by
  obtain ⟨other, member, sameId, sameLocation⟩ := ledgered.located movement posted
  have same : other = item :=
    List.inj_on_of_nodup_map ledgered.ids member present (sameId.trans refers)
  rw [← sameLocation, same]

def StockWrite.contribution : StockWrite → InventoryItemId → Int
  | .createItem item, id => if item.id = id then item.onHand else 0
  | .incrementOnHand target delta _, id => if target = id then delta else 0
  | .setReorder .., _ => 0
  | .createMovement movement, id => if movement.inventoryItemId = id then -movement.quantity else 0

def StockWrite.WellPlaced : StockWrite → Inventory → Prop
  | .createItem item, rows => ∀ other ∈ rows.items, other.id ≠ item.id
  | .incrementOnHand id _ _, rows => ∃ item ∈ rows.items, item.id = id
  | .setReorder .., _ => True
  | .createMovement movement, rows => ∃ item ∈ rows.items,
      item.id = movement.inventoryItemId ∧ item.locationId = movement.locationId

theorem moved_fresh {gap : InventoryItemId → Int} {rows : Inventory} (ledgered : LedgeredUpTo gap rows)
    {id : InventoryItemId} (fresh : ∀ item ∈ rows.items, item.id ≠ id) :
    moved rows.movements id = 0 := by
  apply totalWhere_of_forall_not
  intro movement posted
  obtain ⟨item, member, sameId, _⟩ := ledgered.located movement posted
  have apart : movement.inventoryItemId ≠ id := sameId ▸ fresh item member
  simpa using apart

theorem LedgeredUpTo.updateRow {gap : InventoryItemId → Int} {rows : Inventory}
    {target : InventoryItemId} {change : InventoryItem → InventoryItem} {delta : Int}
    (ledgered : LedgeredUpTo gap rows) (slot : ∀ item, SameSlot item (change item))
    (level : ∀ item, (change item).onHand = item.onHand + delta)
    (placed : delta ≠ 0 → ∃ item ∈ rows.items, item.id = target) :
    LedgeredUpTo (fun id => gap id + if target = id then delta else 0)
      { rows with items := updateWhere (fun item => item.id = target) change rows.items } := by
  refine ⟨?_, ?_, ?_, ?_⟩
  · exact (map_updateWhere fun row => (slot row).1).symm ▸ ledgered.ids
  · intro item member
    rcases mem_updateRow.mp member with ⟨miss, old⟩ | ⟨old, oldMember, hit, rfl⟩
    · have before := ledgered.balance item old
      simp only [if_neg miss.symm]
      omega
    · have before := ledgered.balance old oldMember
      simp only [level, (slot old).1, hit, if_true] at before ⊢
      omega
  · intro movement posted
    obtain ⟨item, member, sameId, sameLocation⟩ := ledgered.located movement posted
    obtain ⟨row, present, same⟩ := updateRow_keeps slot member
    exact ⟨row, present, same.1.trans sameId, same.2.2.trans sameLocation⟩
  · intro id missing
    have fresh : ∀ item ∈ rows.items, item.id ≠ id := by
      intro item member
      obtain ⟨row, present, same⟩ := updateRow_keeps slot member
      rw [← same.1]
      exact missing row present
    have before := ledgered.absent id fresh
    by_cases still : delta = 0
    · simp [before, still]
    · obtain ⟨item, member, sameId⟩ := placed still
      have apart : target ≠ id := sameId ▸ fresh item member
      simp [before, apart]

theorem LedgeredUpTo.apply {gap : InventoryItemId → Int} {rows : Inventory} {statement : StockWrite}
    (ledgered : LedgeredUpTo gap rows) (placed : statement.WellPlaced rows) :
    LedgeredUpTo (fun id => gap id + statement.contribution id) (statement.apply rows) := by
  cases statement with
  | createItem item =>
      refine ⟨?_, ?_, ?_, ?_⟩
      · simpa [StockWrite.apply, List.nodup_append] using ⟨ledgered.ids, placed⟩
      · intro other member
        rcases List.mem_append.mp member with old | new
        · have apart : item.id ≠ other.id := fun same => placed other old same.symm
          simpa [StockWrite.contribution, StockWrite.apply, apart] using ledgered.balance other old
        · obtain rfl := List.mem_singleton.mp new
          have empty := moved_fresh ledgered placed
          have none := ledgered.absent other.id placed
          simp [StockWrite.contribution, StockWrite.apply, empty, none]
      · intro movement posted
        obtain ⟨other, member, same⟩ := ledgered.located movement posted
        exact ⟨other, List.mem_append_left _ member, same⟩
      · intro id missing
        have apart : item.id ≠ id := missing item (List.mem_append_right _ (by simp))
        have before := ledgered.absent id fun other member => missing other (List.mem_append_left _ member)
        simp [StockWrite.contribution, apart, before]
  | incrementOnHand target delta now =>
      exact ledgered.updateRow (addOnHand_sameSlot delta now) (fun _ => rfl) fun _ => placed
  | setReorder target point qty now =>
      have level (item : InventoryItem) :
          (changeReorder point qty now item).onHand = item.onHand + 0 := (Int.add_zero _).symm
      exact (ledgered.updateRow (changeReorder_sameSlot point qty now) level fun moves => absurd rfl moves).congr
        fun id => by simp [StockWrite.contribution]
  | createMovement movement =>
      refine ⟨ledgered.ids, ?_, ?_, ?_⟩
      · intro item member
        have before := ledgered.balance item member
        by_cases hit : movement.inventoryItemId = item.id
        · simp [StockWrite.contribution, StockWrite.apply, moved, hit] at before ⊢
          omega
        · simpa [StockWrite.contribution, StockWrite.apply, moved, hit] using before
      · intro other posted
        rcases List.mem_append.mp posted with old | new
        · exact ledgered.located other old
        · obtain rfl := List.mem_singleton.mp new
          exact placed
      · intro id missing
        obtain ⟨item, member, sameId, _⟩ := placed
        have apart : movement.inventoryItemId ≠ id := sameId ▸ missing item member
        simp [StockWrite.contribution, apart, ledgered.absent id missing]

end Aicos.Inventory
