import Aicos.Catalog.Schema
import Aicos.Inventory.Service

namespace Aicos.Catalog

open Aicos.Commerce Aicos.Data Aicos.Inventory Aicos.Transaction

/-! The transactions of `InventoryService` on the rows of all tenants. -/

/-- The stock that row-level security shows the tenant. -/
def Platform.stockOf (platform : Platform) (tenant : TenantId) : Inventory where
  items := (platform.items.rows.filter fun item => item.tenantId = tenant).map (·.row)
  movements := (platform.movements.filter fun movement => movement.tenantId = tenant).map (·.row)

def itemChange (change : InventoryItem → InventoryItem) (id : ∀ item, (change item).id = item.id) :
    Change (Tenanted InventoryItem) where
  apply := fun item => { item with row := change item.row }
  id := fun item => id item.row
  tenantId := fun _ => rfl

section Change

variable (change : InventoryItem → InventoryItem) (id : ∀ item, (change item).id = item.id) (item : Tenanted InventoryItem)

@[simp] theorem itemChange_row : ((itemChange change id).apply item).row = change item.row := rfl

@[simp] theorem itemChange_tenantId : ((itemChange change id).apply item).tenantId = item.tenantId := rfl

end Change

section Stock

variable (tenant : TenantId)

/-- A stock statement of the tenant, on the rows of all tenants. -/
def applyStock (platform : Platform) : StockWrite → Platform
  | .createItem item => { platform with items := platform.items.insert { tenantId := tenant, row := item } }
  | .incrementOnHand id delta now => { platform with
      items := platform.items.modify (fun item => item.tenantId = tenant ∧ item.row.id = id)
        (itemChange (addOnHand delta now) fun _ => rfl) }
  | .setReorder id reorderPoint reorderQty now => { platform with
      items := platform.items.modify (fun item => item.tenantId = tenant ∧ item.row.id = id)
        (itemChange (changeReorder reorderPoint reorderQty now) fun _ => rfl) }
  | .createMovement movement => { platform with
      movements := platform.movements ++ [{ tenantId := tenant, row := movement }] }

/-- The unique `(variantId, locationId)` and the foreign keys span the tenants. -/
def admitsStock (platform : Platform) : StockWrite → Bool
  | .createItem item =>
      ¬ platform.items.has item.id ∧
        (platform.items.rows.all fun other =>
          ¬ (other.row.variantId = item.variantId ∧ other.row.locationId = item.locationId)) ∧
        platform.variants.has item.variantId ∧ platform.locations.has item.locationId
  | .incrementOnHand id _ _ => (platform.items.visible tenant id).isSome
  | .setReorder id _ _ _ => (platform.items.visible tenant id).isSome
  | .createMovement movement =>
      platform.items.has movement.inventoryItemId ∧ platform.locations.has movement.locationId

def platformStock : Transaction.Store Platform StockWrite StockKey where
  apply := fun statement platform => applyStock tenant platform statement
  admits := fun statement platform => admitsStock tenant platform statement
  locks := StockWrite.locks

/-- A transaction of `InventoryService`, committed. -/
def commitStock {α : Type} (program : StockProgram α) (platform : Platform) : CatalogTx Platform :=
  match (program.within (Platform.stockOf · tenant)).alone (platformStock tenant) platform with
  | .ok (_, after) => .ok after
  | .error (.thrown error) => .error (.http error)
  | .error (.rejected statement) => .error (.stock statement)

end Stock

section Service

variable (tenant : TenantId) (platform : Platform)

def createItem (id : InventoryItemId) (dto : CreateInventoryItemDto) (now : Instant) : CatalogTx Platform :=
  commitStock tenant (Inventory.create id dto now) platform

/-- `update`: its `findOne`, then the update. -/
def updateItem (id : InventoryItemId) (dto : UpdateInventoryItemDto) (now : Instant) : CatalogTx Platform := do
  let found ← commitStock tenant (Inventory.findOne id) platform
  commitStock tenant (Inventory.update id dto now) found

def adjust (id : InventoryItemId) (dto : CreateAdjustmentDto) (now : Instant) : CatalogTx Platform :=
  commitStock tenant (Inventory.adjust id dto now) platform

end Service

section Statements

variable {tenant : TenantId} {platform : Platform}

theorem rows_filter_modify {change : InventoryItem → InventoryItem} {kept : ∀ item, (change item).id = item.id}
    (id : InventoryItemId) (rows : List (Tenanted InventoryItem)) :
    ((updateWhere (fun item => item.tenantId = tenant ∧ item.row.id = id) (itemChange change kept).apply rows).filter
        fun item => item.tenantId = tenant).map (·.row) =
      updateWhere (fun item => item.id = id) change
        ((rows.filter fun item => item.tenantId = tenant).map (·.row)) := by
  induction rows with
  | nil => rfl
  | cons item rest ih =>
      rw [updateWhere_cons, List.filter_cons, List.filter_cons]
      by_cases mine : item.tenantId = tenant
      · by_cases named : item.row.id = id <;> simp [-Bool.decide_and, mine, named, ih]
      · simp [-Bool.decide_and, mine, ih]

theorem stockOf_any {id : InventoryItemId} (shown : (platform.items.visible tenant id).isSome = true) :
    (platform.stockOf tenant).items.any (fun item => item.id = id) = true := by
  obtain ⟨item, shown⟩ := Option.isSome_iff_exists.mp shown
  obtain ⟨found, mine⟩ := Table.visible_eq_some.mp shown
  obtain ⟨member, named⟩ := Table.find?_some found
  refine List.any_eq_true.mpr ⟨item.row, ?_, decide_eq_true named⟩
  exact List.mem_map_of_mem (List.mem_filter.mpr ⟨member, decide_eq_true mine⟩)

/-- What a tenant's statement does among all tenants, it does to the stock of the tenant. -/
theorem stock_simulates (statement : StockWrite) (admitted : admitsStock tenant platform statement = true) :
    stockStore.admits statement (platform.stockOf tenant) = true ∧
      (applyStock tenant platform statement).stockOf tenant =
        stockStore.apply statement (platform.stockOf tenant) := by
  cases statement with
  | createItem item =>
      simp only [admitsStock, Bool.decide_and, Bool.decide_eq_true, Bool.and_eq_true, decide_eq_true_eq] at admitted
      obtain ⟨absent, slots, _⟩ := admitted
      have fresh : platform.items.find? item.id = none := by simpa [Table.has] using absent
      constructor
      · refine List.all_eq_true.mpr fun other member => ?_
        obtain ⟨owned, present, rfl⟩ := List.mem_map.mp member
        have present := List.mem_of_mem_filter present
        have apart : owned.row.id ≠ item.id := fun same =>
          Table.find?_eq_none.mp fresh (List.mem_map.mpr ⟨owned, present, same⟩)
        exact decide_eq_true ⟨apart, of_decide_eq_true (List.all_eq_true.mp slots owned present)⟩
      · have rows : (platform.items.insert ⟨tenant, item⟩).rows = platform.items.rows ++ [⟨tenant, item⟩] :=
          Table.rows_insert fresh
        simp [applyStock, Platform.stockOf, rows, stockStore, StockWrite.apply]
  | incrementOnHand id delta now =>
      refine ⟨stockOf_any admitted, ?_⟩
      exact congrArg (fun items => { items, movements := (platform.stockOf tenant).movements : Inventory })
        (rows_filter_modify id platform.items.rows)
  | setReorder id reorderPoint reorderQty now =>
      refine ⟨stockOf_any admitted, ?_⟩
      exact congrArg (fun items => { items, movements := (platform.stockOf tenant).movements : Inventory })
        (rows_filter_modify id platform.items.rows)
  | createMovement movement =>
      refine ⟨rfl, ?_⟩
      simp [applyStock, Platform.stockOf, stockStore, StockWrite.apply]

/-- A transaction of a tenant is, on the tenant's own stock, the transaction run alone there. -/
theorem commitStock_alone {α : Type} {program : StockProgram α} {after : Platform}
    (committed : commitStock tenant program platform = .ok after) :
    ∃ value, program.alone stockStore (platform.stockOf tenant) = .ok (value, after.stockOf tenant) := by
  unfold commitStock at committed
  split at committed
  · rename_i value _ ran
    cases committed
    refine ⟨value, Program.alone_within stockStore ?_ ran⟩
    exact fun statement rows admitted => stock_simulates statement admitted
  · cases committed
  · cases committed

/-- What every allowed statement of the tenant preserves, the transaction preserves. -/
theorem commitStock_keeps {α : Type} {program : StockProgram α} {allowed : StockWrite → Prop}
    {good : Platform → Prop} {after : Platform} (writes : program.Writes allowed)
    (preserved : ∀ statement rows, allowed statement → good rows → good (applyStock tenant rows statement))
    (holds : good platform) (committed : commitStock tenant program platform = .ok after) : good after := by
  unfold commitStock at committed
  split at committed
  · rename_i ran
    cases committed
    exact writes.within.alone (platformStock tenant)
      (fun statement rows here _ good => preserved statement rows here good) holds ran
  · cases committed
  · cases committed

theorem commitStock_write {α : Type} (statement : StockWrite) (next : StockProgram α) :
    commitStock tenant (.write statement next) platform =
      if admitsStock tenant platform statement then commitStock tenant next (applyStock tenant platform statement)
      else .error (.stock statement) := by
  have admits : (platformStock tenant).admits statement platform = admitsStock tenant platform statement := rfl
  simp only [commitStock, Program.within, Program.alone, admits]
  cases admitsStock tenant platform statement <;> rfl

variable {id : InventoryItemId} {now : Instant}

theorem createItem_slot (dto : CreateInventoryItemDto) (existing : InventoryItem)
    (slot : findSlot dto.variantId dto.locationId (platform.stockOf tenant) = some existing) :
    createItem tenant platform id dto now =
      .error (.http (.badRequest "An inventory item already exists for this variant at this location")) := by
  simp only [createItem, commitStock, Inventory.create, Program.query_bind, Program.within, Program.alone, slot,
    Program.throw]

/-- The row that `create` inserts. -/
def seededItem (id : InventoryItemId) (dto : CreateInventoryItemDto) (now : Instant) : InventoryItem :=
  newItem id dto.variantId dto.locationId (dto.onHand.getD 0 : Nat)
    (dto.reorderPoint.getD 0 : Nat) (dto.reorderQty.getD 0 : Nat) now

/-- The row that `adjust` inserts where the pair has none. -/
def adjustedItem (id : InventoryItemId) (dto : CreateAdjustmentDto) (now : Instant) : InventoryItem :=
  newItem id dto.variantId dto.locationId 0 0 0 now

theorem find?_created {item : InventoryItem} (admitted : admitsStock tenant platform (.createItem item) = true) :
    (applyStock tenant platform (.createItem item)).items.find? item.id = some ⟨tenant, item⟩ := by
  simp only [admitsStock, Bool.decide_and, Bool.decide_eq_true, Bool.and_eq_true, decide_eq_true_eq] at admitted
  have fresh : platform.items.find? item.id = none := by simpa [Table.has] using admitted.1
  have found : (platform.items.insert ⟨tenant, item⟩).find? item.id =
      if item.id = item.id then some ⟨tenant, item⟩ else platform.items.find? item.id :=
    Table.find?_insert fresh item.id
  exact found.trans (if_pos rfl)

theorem movement_admitted {item : InventoryItem} {movement : StockMovement}
    (admitted : admitsStock tenant platform (.createItem item) = true)
    (row : movement.inventoryItemId = item.id) (place : movement.locationId = item.locationId) :
    admitsStock tenant (applyStock tenant platform (.createItem item)) (.createMovement movement) = true := by
  have created := find?_created admitted
  simp only [admitsStock, Bool.decide_and, Bool.decide_eq_true, Bool.and_eq_true, decide_eq_true_eq] at admitted ⊢
  refine ⟨?_, place ▸ admitted.2.2.2⟩
  rw [Table.has, row, created]
  rfl

theorem createItem_free {dto : CreateInventoryItemDto}
    (slot : findSlot dto.variantId dto.locationId (platform.stockOf tenant) = none) :
    createItem tenant platform id dto now = commitStock tenant (seed (seededItem id dto now)) platform := by
  simp only [createItem, commitStock, Inventory.create, Program.query_bind, Program.within, Program.alone, slot, seededItem]

theorem seed_commits {item : InventoryItem} (admitted : admitsStock tenant platform (.createItem item) = true) :
    ∃ after, commitStock tenant (seed item) platform = .ok after := by
  have moved : (platformStock tenant).admits (.createMovement (initialMovement item))
      ((platformStock tenant).apply (.createItem item) platform) = true := movement_admitted admitted rfl rfl
  have admitted : (platformStock tenant).admits (.createItem item) platform = true := admitted
  by_cases stocked : 0 < item.onHand <;>
    simp [commitStock, seed, Program.within, Program.alone, admitted, stocked, moved]

theorem adjust_slot {dto : CreateAdjustmentDto} {existing : InventoryItem}
    (slot : findSlot dto.variantId dto.locationId (platform.stockOf tenant) = some existing) :
    adjust tenant platform id dto now = commitStock tenant (applyDelta existing dto now) platform := by
  simp only [adjust, commitStock, Inventory.adjust, findOrCreate, Program.query_bind, Program.read_bind,
    Program.within, Program.alone, slot, Program.pure_eq, Program.done_bind]

theorem adjust_free {dto : CreateAdjustmentDto}
    (slot : findSlot dto.variantId dto.locationId (platform.stockOf tenant) = none) :
    adjust tenant platform id dto now = commitStock tenant
      (.write (.createItem (adjustedItem id dto now)) (applyDelta (adjustedItem id dto now) dto now)) platform := by
  simp only [adjust, commitStock, Inventory.adjust, findOrCreate, Program.query_bind, Program.read_bind,
    Program.within, Program.alone, slot, Program.exec_bind, Program.write_bind, Program.pure_eq, Program.done_bind,
    adjustedItem]

def adjustRefused (item : InventoryItem) (dto : CreateAdjustmentDto) : Prop :=
  item.onHand + dto.delta < 0 ∧ dto.type ∉ negativeAllowedTypes

theorem applyDelta_refused {item : InventoryItem} {dto : CreateAdjustmentDto} (refused : adjustRefused item dto) :
    commitStock tenant (applyDelta item dto now) platform = .error (.http (adjustmentRefusal item dto)) := by
  unfold adjustRefused at refused
  rw [applyDelta, if_pos refused]
  rfl

theorem applyDelta_commits {item : InventoryItem} {dto : CreateAdjustmentDto} (allowed : ¬ adjustRefused item dto)
    (admitted : admitsStock tenant platform (.createItem item) = true) :
    ∃ after, commitStock tenant (applyDelta item dto now)
      (applyStock tenant platform (.createItem item)) = .ok after := by
  have moved : (platformStock tenant).admits (.createMovement (adjustmentMovement item dto))
      (applyStock tenant platform (.createItem item)) = true := movement_admitted admitted rfl rfl
  have raised : (platformStock tenant).admits (.incrementOnHand item.id dto.delta now)
      ((platformStock tenant).apply (.createMovement (adjustmentMovement item dto))
        (applyStock tenant platform (.createItem item))) = true := by
    refine Option.isSome_iff_exists.mpr ⟨⟨tenant, item⟩, Table.visible_eq_some.mpr ⟨?_, rfl⟩⟩
    exact find?_created admitted
  unfold adjustRefused at allowed
  rw [applyDelta, if_neg allowed]
  simp [commitStock, Program.within, Program.alone, moved, raised]

def KeepsItems : StockWrite → Prop
  | .createItem _ => False
  | _ => True

theorem seed_writes (item : InventoryItem) :
    ∃ next, seed item = .write (.createItem item) next ∧ next.Writes KeepsItems := by
  by_cases stocked : 0 < item.onHand
  · exact ⟨.write (.createMovement (initialMovement item)) (pure (withAvailable item)), by simp [seed, stocked],
      trivial, trivial⟩
  · exact ⟨pure (withAvailable item), by simp [seed, stocked], trivial⟩

theorem applyDelta_writes (item : InventoryItem) (dto : CreateAdjustmentDto) :
    (applyDelta item dto now).Writes KeepsItems := by
  unfold applyDelta
  split
  · trivial
  · exact ⟨trivial, trivial, fun _ => trivial⟩

end Statements

end Aicos.Catalog
