import Aicos.Inventory.Statements
import Aicos.Transaction.ReadCommitted

namespace Aicos.Inventory

open Aicos.Commerce Aicos.Data Aicos.Transaction

/-! What other transactions can do to the stock rows while one transaction runs:
items stay, with their variant and location; the rows it has locked stay as they
are; the ledger only grows. -/

/-- The row keeps everything that identifies it. -/
def SameSlot (before after : InventoryItem) : Prop :=
  after.id = before.id ∧ after.variantId = before.variantId ∧ after.locationId = before.locationId

theorem SameSlot.trans {first second third : InventoryItem} (left : SameSlot first second)
    (right : SameSlot second third) : SameSlot first third :=
  ⟨right.1.trans left.1, right.2.1.trans left.2.1, right.2.2.trans left.2.2⟩

structure StockRely (held : StockKey → Prop) (before after : Inventory) : Prop where
  kept : ∀ item ∈ before.items, ∃ row ∈ after.items, SameSlot item row
  locked : ∀ row ∈ after.items, held (.item row.id) → row ∈ before.items
  stays : ∀ item ∈ before.items, held (.item item.id) → item ∈ after.items
  ledger : before.movements ⊆ after.movements

variable {held : StockKey → Prop} {before middle after rows now : Inventory}

theorem StockRely.refl (held : StockKey → Prop) (rows : Inventory) : StockRely held rows rows :=
  ⟨fun item member => ⟨item, member, rfl, rfl, rfl⟩, fun _ member _ => member,
    fun _ member _ => member, List.Subset.refl _⟩

theorem StockRely.trans (left : StockRely held before middle) (right : StockRely held middle after) :
    StockRely held before after := by
  refine ⟨?_, ?_, ?_, List.Subset.trans left.ledger right.ledger⟩
  · intro item member
    obtain ⟨row, found, same⟩ := left.kept item member
    obtain ⟨last, present, also⟩ := right.kept row found
    exact ⟨last, present, same.trans also⟩
  · exact fun row member lock => left.locked row (right.locked row member lock) lock
  · exact fun item member lock => right.stays item (left.stays item member lock) lock

@[simp] theorem addOnHand_sameSlot (delta : Int) (now : Instant) (item : InventoryItem) :
    SameSlot item (addOnHand delta now item) := ⟨rfl, rfl, rfl⟩

@[simp] theorem changeReorder_sameSlot (point qty : Option Int) (now : Instant) (item : InventoryItem) :
    SameSlot item (changeReorder point qty now item) := ⟨rfl, rfl, rfl⟩

section UpdateRow

variable {id : InventoryItemId} {change : InventoryItem → InventoryItem} {items others : List InventoryItem}

theorem mem_updateRow {row : InventoryItem} :
    row ∈ updateWhere (fun item => item.id = id) change items ↔
      (row.id ≠ id ∧ row ∈ items) ∨ ∃ old ∈ items, old.id = id ∧ change old = row := by
  rw [mem_updateWhere]
  constructor
  · rintro ⟨old, member, rfl⟩
    by_cases hit : old.id = id
    · exact .inr ⟨old, member, hit, by simp [hit]⟩
    · exact .inl ⟨by simp [hit], by simpa [hit] using member⟩
  · rintro (⟨miss, member⟩ | ⟨old, member, hit, rfl⟩)
    · exact ⟨row, member, by simp [miss]⟩
    · exact ⟨old, member, by simp [hit]⟩

theorem updateRow_keeps (slot : ∀ item, SameSlot item (change item)) {item : InventoryItem}
    (member : item ∈ items) :
    ∃ row ∈ updateWhere (fun item => item.id = id) change items, SameSlot item row := by
  by_cases hit : item.id = id
  · exact ⟨change item, mem_updateRow.mpr (.inr ⟨item, member, hit, rfl⟩), slot item⟩
  · exact ⟨item, mem_updateRow.mpr (.inl ⟨hit, member⟩), rfl, rfl, rfl⟩

theorem updateRow_kept (slot : ∀ item, SameSlot item (change item))
    (kept : ∀ item ∈ items, ∃ row ∈ others, SameSlot item row) :
    ∀ item ∈ updateWhere (fun item => item.id = id) change items,
      ∃ row ∈ updateWhere (fun item => item.id = id) change others, SameSlot item row := by
  intro item member
  rcases mem_updateRow.mp member with ⟨miss, old⟩ | ⟨old, oldMember, hit, rfl⟩
  · obtain ⟨row, found, same⟩ := kept item old
    exact ⟨row, mem_updateRow.mpr (.inl ⟨by rw [same.1]; exact miss, found⟩), same⟩
  · obtain ⟨row, found, same⟩ := kept old oldMember
    refine ⟨change row, mem_updateRow.mpr (.inr ⟨row, found, same.1.trans hit, rfl⟩), ?_⟩
    obtain ⟨rowSlot, oldSlot⟩ := And.intro (slot row) (slot old)
    exact ⟨by rw [rowSlot.1, oldSlot.1, same.1], by rw [rowSlot.2.1, oldSlot.2.1, same.2.1],
      by rw [rowSlot.2.2, oldSlot.2.2, same.2.2]⟩

theorem updateRow_locked
    (locked : ∀ row ∈ others, held (.item row.id) → row ∈ items) (own : held (.item id)) :
    ∀ row ∈ updateWhere (fun item => item.id = id) change others, held (.item row.id) →
      row ∈ updateWhere (fun item => item.id = id) change items := by
  intro row member lock
  rcases mem_updateRow.mp member with ⟨miss, old⟩ | ⟨old, oldMember, hit, rfl⟩
  · exact mem_updateRow.mpr (.inl ⟨miss, locked row old lock⟩)
  · exact mem_updateRow.mpr (.inr ⟨old, locked old oldMember (hit ▸ own), hit, rfl⟩)

end UpdateRow

theorem updateRow_rely {id : InventoryItemId} {change : InventoryItem → InventoryItem}
    (slot : ∀ item, SameSlot item (change item)) (apart : ¬ held (.item id)) :
    StockRely held rows
      { rows with items := updateWhere (fun item => item.id = id) change rows.items } := by
  refine ⟨fun item member => updateRow_keeps slot member, ?_, ?_, List.Subset.refl _⟩
  · intro row member lock
    rcases mem_updateRow.mp member with ⟨_, old⟩ | ⟨old, _, hit, rfl⟩
    · exact old
    · rw [(slot old).1, hit] at lock
      exact absurd lock apart
  · intro item member lock
    refine mem_updateRow.mpr (.inl ⟨?_, member⟩)
    rintro rfl
    exact apart lock

/-- The same statement on both sides keeps the rely, provided its locks are held. -/
theorem StockRely.apply {statement : StockWrite} (rely : StockRely held rows now)
    (own : ∀ key ∈ statement.locks, held key) :
    StockRely held (statement.apply rows) (statement.apply now) := by
  cases statement with
  | createItem item =>
      refine ⟨?_, ?_, ?_, rely.ledger⟩
      · intro other member
        rcases List.mem_append.mp member with old | new
        · obtain ⟨row, found, same⟩ := rely.kept other old
          exact ⟨row, List.mem_append_left _ found, same⟩
        · exact ⟨other, List.mem_append_right _ new, rfl, rfl, rfl⟩
      · intro row member lock
        rcases List.mem_append.mp member with old | new
        · exact List.mem_append_left _ (rely.locked row old lock)
        · exact List.mem_append_right _ new
      · intro other member lock
        rcases List.mem_append.mp member with old | new
        · exact List.mem_append_left _ (rely.stays other old lock)
        · exact List.mem_append_right _ new
  | incrementOnHand id delta at_ =>
      have lock : held (.item id) := own _ (by simp [StockWrite.locks])
      have slot := addOnHand_sameSlot delta at_
      exact ⟨updateRow_kept slot rely.kept, updateRow_locked rely.locked lock,
        updateRow_locked rely.stays lock, rely.ledger⟩
  | setReorder id point qty at_ =>
      have lock : held (.item id) := own _ (by simp [StockWrite.locks])
      have slot := changeReorder_sameSlot point qty at_
      exact ⟨updateRow_kept slot rely.kept, updateRow_locked rely.locked lock,
        updateRow_locked rely.stays lock, rely.ledger⟩
  | createMovement movement =>
      refine ⟨rely.kept, rely.locked, rely.stays, ?_⟩
      exact List.append_subset.mpr ⟨List.Subset.trans rely.ledger (List.subset_append_left _ _),
        List.subset_append_right _ _⟩

theorem StockRely.view {pending : List StockWrite} (rely : StockRely held rows now)
    (own : ∀ key, stockStore.Holds pending key → held key) :
    StockRely held (stockStore.view pending rows) (stockStore.view pending now) := by
  induction pending generalizing rows now with
  | nil => exact rely
  | cons statement rest ih =>
      exact ih (rely.apply fun key lock => own key (stockStore.holds_cons.mpr (.inl lock)))
        fun key holds => own key (stockStore.holds_cons.mpr (.inr holds))

/-- A statement is felt only through the rows it locks. -/
theorem StockRely.of_apply {statement : StockWrite}
    (apart : ∀ key, held key → key ∉ statement.locks) : StockRely held rows (statement.apply rows) := by
  cases statement with
  | createItem item =>
      refine ⟨fun other member => ⟨other, List.mem_append_left _ member, rfl, rfl, rfl⟩, ?_,
        fun other member _ => List.mem_append_left _ member, List.Subset.refl _⟩
      intro row member lock
      rcases List.mem_append.mp member with old | new
      · exact old
      · obtain rfl := List.mem_singleton.mp new
        exact absurd (by simp [StockWrite.locks]) (apart _ lock)
  | incrementOnHand id delta at_ =>
      exact updateRow_rely (addOnHand_sameSlot delta at_)
        fun lock => apart _ lock (by simp [StockWrite.locks])
  | setReorder id point qty at_ =>
      exact updateRow_rely (changeReorder_sameSlot point qty at_)
        fun lock => apart _ lock (by simp [StockWrite.locks])
  | createMovement movement =>
      exact ⟨(StockRely.refl held rows).kept, fun _ member _ => member, fun _ member _ => member,
        List.subset_append_left _ _⟩

theorem StockRely.of_view {pending : List StockWrite}
    (apart : ∀ key, held key → ¬ stockStore.Holds pending key) :
    StockRely held rows (stockStore.view pending rows) := by
  induction pending generalizing rows with
  | nil => exact .refl held rows
  | cons statement rest ih =>
      have first : StockRely held rows (statement.apply rows) :=
        .of_apply fun key lock mine => apart key lock (stockStore.holds_cons.mpr (.inl mine))
      exact first.trans (ih fun key lock holds => apart key lock (stockStore.holds_cons.mpr (.inr holds)))

end Aicos.Inventory
