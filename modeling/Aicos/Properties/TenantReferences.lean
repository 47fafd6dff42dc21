import Aicos.Catalog.Requests
import Aicos.Commerce.Tables
import Aicos.Transition.Run

namespace Aicos.Properties

open Aicos.Catalog Aicos.Data Aicos.Inventory Aicos.Transition
open Aicos.Commerce hiding Product

/-! References between the rows of the tenants.  A foreign key finds a row whoever
owns it, so an id that is inserted without a look-up can name another tenant's. -/

def ProductInside (platform : Platform) (row : Product) : Prop :=
  platform.stores.Owns row.tenantId row.storeId ∧ platform.brands.Owns row.tenantId row.brandId

def ItemInside (platform : Platform) (item : Tenanted InventoryItem) : Prop :=
  platform.variants.Owns item.tenantId (some item.row.variantId) ∧
    platform.locations.Owns item.tenantId (some item.row.locationId)

instance (platform : Platform) (row : Product) : Decidable (ProductInside platform row) :=
  inferInstanceAs (Decidable (_ ∧ _))

instance (platform : Platform) (item : Tenanted InventoryItem) : Decidable (ItemInside platform item) :=
  inferInstanceAs (Decidable (_ ∧ _))

/-- Every reference points to a row of the tenant of the row that has it. -/
structure InsideTenants (platform : Platform) : Prop where
  products : ∀ row ∈ platform.products.rows, ProductInside platform row
  categories : ∀ row ∈ platform.categories.rows, platform.categories.Owns row.tenantId row.parentId
  items : ∀ item ∈ platform.items.rows, ItemInside platform item
  locations : ∀ row ∈ platform.locations.rows, platform.addresses.Owns row.tenantId row.addressId

/-- The request stores no id of another tenant's row: not in an insert or an update
that the constraints let pass, nor in the first stock of a pair. -/
def StoresOwn (nfkd : String → String) (platform : Platform) (action : CatalogAction) : Prop :=
  let tenant := action.tenant
  match action.request with
  | .createProduct id dto =>
      (platform.insertProduct (dto.storeId = .empty ∨ dto.brandId = .empty)
          (productOf id tenant (dto.slug.getD (slugify nfkd dto.title)) dto)).isOk = true →
        platform.stores.Owns tenant dto.storeId.column ∧ platform.brands.Owns tenant dto.brandId.column
  | .createLocation id dto =>
      (platform.insertLocation (dto.addressId = .empty) (locationOf id tenant dto)).isOk = true →
        platform.addresses.Owns tenant dto.addressId.column
  | .updateLocation id dto =>
      (platform.updateLocation (dto.addressId = .empty) tenant id (locationChange dto)).isOk = true →
        platform.addresses.Owns tenant dto.addressId.column
  | .createItem id dto now =>
      findSlot dto.variantId dto.locationId (platform.stockOf tenant) = none →
        admitsStock tenant platform (.createItem (seededItem id dto now)) = true →
          ItemInside platform ⟨tenant, seededItem id dto now⟩
  | .adjust id dto now =>
      findSlot dto.variantId dto.locationId (platform.stockOf tenant) = none →
        admitsStock tenant platform (.createItem (adjustedItem id dto now)) = true →
          ¬ adjustRefused (adjustedItem id dto now) dto → ItemInside platform ⟨tenant, adjustedItem id dto now⟩
  | _ => True

section Tables

variable {platform : Platform}

theorem InsideTenants.products_iff (inside : InsideTenants platform) (products : Table Product) :
    InsideTenants { platform with products } ↔ ∀ row ∈ products.rows, ProductInside platform row :=
  ⟨fun after => after.products, fun all => ⟨all, inside.categories, inside.items, inside.locations⟩⟩

theorem InsideTenants.categories_iff (inside : InsideTenants platform) (categories : Table Category) :
    InsideTenants { platform with categories } ↔
      ∀ row ∈ categories.rows, categories.Owns row.tenantId row.parentId :=
  ⟨fun after => after.categories, fun all => ⟨inside.products, all, inside.items, inside.locations⟩⟩

theorem InsideTenants.locations_iff (inside : InsideTenants platform) {locations : Table Location}
    (keeps : platform.locations.Keeps locations) :
    InsideTenants { platform with locations } ↔
      ∀ row ∈ locations.rows, platform.addresses.Owns row.tenantId row.addressId := by
  refine ⟨fun after => after.locations, fun all => ⟨inside.products, inside.categories, ?_, all⟩⟩
  exact fun item member => ⟨(inside.items item member).1, (inside.items item member).2.mono keeps⟩

theorem InsideTenants.items_iff (inside : InsideTenants platform) (items : Table (Tenanted InventoryItem))
    (movements : List (Tenanted StockMovement)) :
    InsideTenants { platform with items, movements } ↔ ∀ item ∈ items.rows, ItemInside platform item :=
  ⟨fun after => after.items, fun all => ⟨inside.products, inside.categories, all, inside.locations⟩⟩

theorem InsideTenants.variants (inside : InsideTenants platform) {variants : Table Variant}
    (keeps : platform.variants.Keeps variants) : InsideTenants { platform with variants } := by
  refine ⟨inside.products, inside.categories, ?_, inside.locations⟩
  exact fun item member => ⟨(inside.items item member).1.mono keeps, (inside.items item member).2⟩

theorem InsideTenants.brands (inside : InsideTenants platform) {brands : Table Brand}
    (keeps : platform.brands.Keeps brands) : InsideTenants { platform with brands } := by
  refine ⟨?_, inside.categories, inside.items, inside.locations⟩
  exact fun row member => ⟨(inside.products row member).1, (inside.products row member).2.mono keeps⟩

theorem InsideTenants.images (inside : InsideTenants platform) (images : Table ProductImage) :
    InsideTenants { platform with images } :=
  ⟨inside.products, inside.categories, inside.items, inside.locations⟩

theorem owns_relation_iff {α : Type} [TenantRow α] {table : Table α} {tenant : TenantId} {field : IdField}
    {old : Option Nat} (kept : table.Owns tenant old) :
    table.Owns tenant (field.relation.getD old) ↔ table.Owns tenant field.column := by
  cases field with
  | undefined => exact iff_of_true kept nofun
  | _ => exact Iff.rfl

end Tables

section Products

variable {nfkd : String → String} {tenant : TenantId} {platform after : Platform}

theorem InsideTenants.createProduct (inside : InsideTenants platform) {id : ProductId} {dto : CreateProductDto} :
    InsideTenants (step nfkd platform ⟨tenant, .createProduct id dto⟩) ↔
      StoresOwn nfkd platform ⟨tenant, .createProduct id dto⟩ := by
  rw [step_iff nfkd inside]
  constructor
  · intro kept through
    obtain ⟨after, inserted⟩ := isOk_iff.mp through
    have created := kept after (mapUnique_ok.mpr inserted)
    obtain ⟨fresh, rfl⟩ := Platform.insertProduct_ok inserted
    rw [inside.products_iff, Table.forall_insert fresh] at created
    exact created.2
  · intro own after ran
    have inserted := mapUnique_ok.mp ran
    have stored := own (isOk_iff.mpr ⟨after, inserted⟩)
    obtain ⟨fresh, rfl⟩ := Platform.insertProduct_ok inserted
    rw [inside.products_iff, Table.forall_insert fresh]
    exact ⟨inside.products, stored⟩

theorem InsideTenants.changeProduct (inside : InsideTenants platform) {id : ProductId} {change : Change Product}
    (kept : ∀ row, platform.products.visible tenant id = some row → ProductInside platform row →
      ProductInside platform (change.apply row))
    (updated : platform.updateProduct tenant id change = .ok after) : InsideTenants after := by
  obtain ⟨row, shown, rfl⟩ := Platform.updateProduct_ok updated
  have found := (Table.visible_eq_some.mp shown).1
  rw [inside.products_iff, Table.forall_update found inside.products]
  exact kept row shown (inside.products row (Table.find?_some found).1)

theorem InsideTenants.updateProduct (inside : InsideTenants platform) {id : ProductId} {dto : UpdateProductDto}
    (ran : Catalog.updateProduct tenant platform id dto = .ok after) : InsideTenants after := by
  obtain ⟨_, _, ran⟩ := bind_eq_ok.mp ran
  obtain ⟨_, brand, ran⟩ := bind_eq_ok.mp (mapUnique_ok.mp ran)
  obtain ⟨_, store, ran⟩ := bind_eq_ok.mp ran
  refine inside.changeProduct (fun row shown here => ?_) ran
  obtain ⟨_, rfl⟩ := Table.visible_eq_some.mp shown
  exact ⟨(owns_relation_iff here.1).mpr (connect_ok store), (owns_relation_iff here.2).mpr (connect_ok brand)⟩

theorem InsideTenants.removeProduct (inside : InsideTenants platform) {id : ProductId} {now : Instant}
    (ran : Catalog.removeProduct tenant platform id now = .ok after) : InsideTenants after := by
  obtain ⟨_, _, ran⟩ := bind_eq_ok.mp ran
  exact inside.changeProduct (fun _ _ here => here) (fromDb_ok.mp ran)

theorem InsideTenants.publishProduct (inside : InsideTenants platform) {id : ProductId} {now : Instant}
    (ran : Catalog.publishProduct tenant platform id now = .ok after) : InsideTenants after := by
  obtain ⟨_, _, ran⟩ := bind_eq_ok.mp ran
  exact inside.changeProduct (fun _ _ here => here) (fromDb_ok.mp ran)

theorem InsideTenants.createVariant (inside : InsideTenants platform) {id : VariantId} {productId : ProductId}
    {dto : CreateVariantDto} (ran : Catalog.createVariant nfkd tenant platform id productId dto = .ok after) :
    InsideTenants after := by
  obtain ⟨_, _, ran⟩ := bind_eq_ok.mp ran
  obtain ⟨_, rfl⟩ := Platform.insertVariant_ok (mapUnique_ok.mp ran)
  exact inside.variants (Table.Keeps.insert _ _)

theorem InsideTenants.changeVariant (inside : InsideTenants platform) {id : VariantId} {change : Change Variant}
    (updated : platform.updateVariant tenant id change = .ok after) : InsideTenants after := by
  obtain rfl := Platform.updateVariant_ok updated
  exact inside.variants (Table.Keeps.modify _ _ _)

theorem InsideTenants.addImage (inside : InsideTenants platform) {id : ImageId} {productId : ProductId}
    {dto : CreateProductImageDto} (ran : Catalog.addImage tenant platform id productId dto = .ok after) :
    InsideTenants after := by
  obtain ⟨_, _, ran⟩ := bind_eq_ok.mp ran
  obtain ⟨_, _, ran⟩ := bind_eq_ok.mp ran
  obtain ⟨added, inserted, ran⟩ := bind_eq_ok.mp ran
  obtain rfl := Platform.insertImage_ok (fromDb_ok.mp inserted)
  have inside := inside.images (platform.images.insert (imageOf id tenant productId dto))
  split at ran
  · exact inside.changeProduct (fun _ _ here => here) (fromDb_ok.mp ran)
  · cases ran
    exact inside

end Products

section Categories

variable {nfkd : String → String} {tenant : TenantId} {platform after : Platform}

theorem assertParentExists_ok {field : IdField} (checked : assertParentExists tenant platform field = .ok ()) :
    platform.categories.Owns tenant field.column := by
  cases field with
  | id parentId =>
      obtain ⟨parent, found, _⟩ := bind_eq_ok.mp checked
      have found := orThrow_ok.mp found
      rw [findCategory, Option.filter_eq_some_iff] at found
      intro id set
      cases set
      exact Table.ownerOf_eq_some.mpr ⟨parent, Table.visible_eq_some.mp found.1⟩
  | _ => simp [Table.Owns, IdField.column]

theorem InsideTenants.createCategory (inside : InsideTenants platform) {id : CategoryId} {dto : CreateCategoryDto}
    (ran : Catalog.createCategory nfkd tenant platform id dto = .ok after) : InsideTenants after := by
  have stored : platform.categories.Owns tenant dto.parentId.column ∧
      platform.insertCategory (dto.parentId = .empty)
        (categoryOf id tenant (dto.slug.getD (slugify nfkd dto.name)) dto) = .ok after := by
    simp only [Catalog.createCategory] at ran
    split at ran
    · obtain ⟨_, checked, ran⟩ := bind_eq_ok.mp ran
      exact ⟨assertParentExists_ok checked, mapUnique_ok.mp ran⟩
    · rename_i falsy
      refine ⟨fun other set => ?_, mapUnique_ok.mp ran⟩
      cases field : dto.parentId with
      | id value => exact absurd field (falsy value)
      | _ => simp [field, IdField.column] at set
  obtain ⟨parent, inserted⟩ := stored
  obtain ⟨fresh, rfl⟩ := Platform.insertCategory_ok inserted
  rw [inside.categories_iff, Table.forall_insert fresh]
  have keeps := Table.Keeps.insert platform.categories
    (categoryOf id tenant (dto.slug.getD (slugify nfkd dto.name)) dto)
  exact ⟨fun row member => (inside.categories row member).mono keeps, parent.mono keeps⟩

theorem InsideTenants.changeCategory (inside : InsideTenants platform) {id : CategoryId} {change : Change Category}
    (kept : ∀ row, platform.categories.visible tenant id = some row →
      platform.categories.Owns row.tenantId row.parentId →
      platform.categories.Owns (change.apply row).tenantId (change.apply row).parentId)
    (updated : platform.updateCategory tenant id change = .ok after) : InsideTenants after := by
  obtain ⟨row, shown, rfl⟩ := Platform.updateCategory_ok updated
  have found := (Table.visible_eq_some.mp shown).1
  have keeps : platform.categories.Keeps (platform.categories.update id change) := Table.Keeps.modify _ _ _
  have same : ∀ row ∈ (platform.categories.update id change).rows,
      platform.categories.Owns row.tenantId row.parentId :=
    (Table.forall_update found inside.categories).mpr
      (kept row shown (inside.categories row (Table.find?_some found).1))
  exact (inside.categories_iff _).mpr fun row member => (same row member).mono keeps

theorem InsideTenants.updateCategory (inside : InsideTenants platform) {id : CategoryId} {dto : UpdateCategoryDto}
    (ran : Catalog.updateCategory tenant platform id dto = .ok after) : InsideTenants after := by
  obtain ⟨_, _, ran⟩ := bind_eq_ok.mp ran
  obtain ⟨_, _, ran⟩ := bind_eq_ok.mp ran
  obtain ⟨_, parent, ran⟩ := bind_eq_ok.mp (mapUnique_ok.mp ran)
  refine inside.changeCategory (fun row shown here => ?_) ran
  obtain ⟨_, rfl⟩ := Table.visible_eq_some.mp shown
  exact (owns_relation_iff here).mpr (connect_ok parent)

theorem InsideTenants.removeCategory (inside : InsideTenants platform) {id : CategoryId} {now : Instant}
    (ran : Catalog.removeCategory tenant platform id now = .ok after) : InsideTenants after := by
  obtain ⟨_, _, ran⟩ := bind_eq_ok.mp ran
  exact inside.changeCategory (fun _ _ here => here) (fromDb_ok.mp ran)

theorem InsideTenants.deleteBrand (inside : InsideTenants platform) {id : BrandId}
    (deleted : platform.deleteBrand tenant id = .ok after) : InsideTenants after := by
  unfold Platform.deleteBrand at deleted
  split at deleted
  · cases deleted
  · cases deleted
    refine ⟨fun row member => ?_, inside.categories, inside.items, inside.locations⟩
    obtain ⟨old, present, rfl⟩ := Table.mem_modify.mp member
    obtain ⟨store, brand⟩ := inside.products old present
    split
    · exact ⟨store, by simp [Platform.withoutBrand, Table.Owns]⟩
    · rename_i apart
      refine ⟨store, fun other set => ?_⟩
      have kept : other ≠ id := fun same => apart (decide_eq_true (same ▸ set))
      rw [Table.ownerOf, Table.find?_delete kept]
      exact brand other set

end Categories

section Locations

variable {nfkd : String → String} {tenant : TenantId} {platform after : Platform}

theorem InsideTenants.createLocation (inside : InsideTenants platform) {id : LocationId} {dto : CreateLocationDto} :
    InsideTenants (step nfkd platform ⟨tenant, .createLocation id dto⟩) ↔
      StoresOwn nfkd platform ⟨tenant, .createLocation id dto⟩ := by
  rw [step_iff nfkd inside]
  constructor
  · intro kept through
    obtain ⟨after, inserted⟩ := isOk_iff.mp through
    have created := kept after (fromDb_ok.mpr inserted)
    obtain ⟨fresh, rfl⟩ := Platform.insertLocation_ok inserted
    rw [inside.locations_iff (Table.Keeps.insert _ _), Table.forall_insert fresh] at created
    exact created.2
  · intro own after ran
    have inserted := fromDb_ok.mp ran
    have stored := own (isOk_iff.mpr ⟨after, inserted⟩)
    obtain ⟨fresh, rfl⟩ := Platform.insertLocation_ok inserted
    rw [inside.locations_iff (Table.Keeps.insert _ _), Table.forall_insert fresh]
    exact ⟨inside.locations, stored⟩

theorem InsideTenants.updateLocation (inside : InsideTenants platform) {id : LocationId} {dto : UpdateLocationDto} :
    InsideTenants (step nfkd platform ⟨tenant, .updateLocation id dto⟩) ↔
      StoresOwn nfkd platform ⟨tenant, .updateLocation id dto⟩ := by
  have changed {row : Location} (shown : platform.locations.visible tenant id = some row) :
      InsideTenants { platform with locations := platform.locations.update id (locationChange dto) } ↔
        platform.addresses.Owns tenant dto.addressId.column := by
    obtain ⟨found, rfl⟩ := Table.visible_eq_some.mp shown
    have here := inside.locations row (Table.find?_some found).1
    have keeps : platform.locations.Keeps (platform.locations.update id (locationChange dto)) :=
      Table.Keeps.modify _ _ _
    rw [inside.locations_iff keeps]
    exact (Table.forall_update found inside.locations).trans (owns_relation_iff here)
  rw [step_iff nfkd inside]
  constructor
  · intro kept through
    obtain ⟨after, updated⟩ := isOk_iff.mp through
    obtain ⟨row, shown, rfl⟩ := Platform.updateLocation_ok updated
    exact (changed shown).mp (kept _ (bind_eq_ok.mpr ⟨row, orThrow_ok.mpr shown, fromDb_ok.mpr updated⟩))
  · intro own after ran
    obtain ⟨row, looked, ran⟩ := bind_eq_ok.mp ran
    have updated := fromDb_ok.mp ran
    have stored := own (isOk_iff.mpr ⟨after, updated⟩)
    obtain ⟨row, shown, rfl⟩ := Platform.updateLocation_ok updated
    exact (changed shown).mpr stored

theorem InsideTenants.removeLocation (inside : InsideTenants platform) {id : LocationId}
    (ran : Catalog.removeLocation tenant platform id = .ok after) : InsideTenants after := by
  obtain ⟨_, _, ran⟩ := bind_eq_ok.mp ran
  have deleted := fromDb_ok.mp ran
  unfold Platform.deleteLocation at deleted
  split at deleted
  · cases deleted
  · split at deleted
    · cases deleted
    · rename_i unused
      cases deleted
      refine ⟨inside.products, inside.categories, fun item member => ?_, fun row member => ?_⟩
      · obtain ⟨variant, place⟩ := inside.items item member
        refine ⟨variant, fun other set => ?_⟩
        cases set
        have kept : item.row.locationId ≠ id := by
          intro same
          exact unused (.inl (List.any_eq_true.mpr ⟨item, member, decide_eq_true same⟩))
        rw [Table.ownerOf, Table.find?_delete kept]
        exact place _ rfl
      · exact inside.locations row (List.mem_of_mem_filter member)

end Locations

section Stock

variable {nfkd : String → String} {tenant : TenantId} {platform after : Platform}

theorem InsideTenants.applyStock (inside : InsideTenants platform) (statement : StockWrite)
    (kept : KeepsItems statement) : InsideTenants (applyStock tenant platform statement) := by
  cases statement with
  | createItem item => cases kept
  | incrementOnHand id delta now =>
      exact (inside.items_iff _ platform.movements).mpr (Table.forall_modify inside.items fun _ here => here)
  | setReorder id reorderPoint reorderQty now =>
      exact (inside.items_iff _ platform.movements).mpr (Table.forall_modify inside.items fun _ here => here)
  | createMovement movement => exact (inside.items_iff platform.items _).mpr inside.items

theorem InsideTenants.stock {α : Type} {program : StockProgram α} (inside : InsideTenants platform)
    (writes : program.Writes KeepsItems) (committed : commitStock tenant program platform = .ok after) :
    InsideTenants after :=
  commitStock_keeps writes (fun statement _ kept here => here.applyStock statement kept) inside committed

theorem InsideTenants.createItemRow (inside : InsideTenants platform) {item : InventoryItem}
    (admitted : admitsStock tenant platform (.createItem item) = true) :
    InsideTenants (Catalog.applyStock tenant platform (.createItem item)) ↔ ItemInside platform ⟨tenant, item⟩ := by
  have fresh : platform.items.find? item.id = none := by
    simp only [admitsStock, Bool.decide_and, Bool.and_eq_true] at admitted
    simpa [Table.has] using admitted.1
  have rows := inside.items_iff (platform.items.insert ⟨tenant, item⟩) platform.movements
  exact rows.trans ((Table.forall_insert fresh).trans (and_iff_right inside.items))

/-- The tables that an item refers to, and an item of the tenant for the pair. -/
def HasItem (platform : Platform) (item : Tenanted InventoryItem) (now : Platform) : Prop :=
  now.variants = platform.variants ∧ now.locations = platform.locations ∧
    ∃ row ∈ now.items.rows, row.tenantId = item.tenantId ∧ row.row.variantId = item.row.variantId ∧
      row.row.locationId = item.row.locationId

theorem HasItem.inside {item : Tenanted InventoryItem} (has : HasItem platform item after)
    (inside : InsideTenants after) : ItemInside platform item := by
  obtain ⟨variants, locations, row, member, tenant, variant, place⟩ := has
  have here := inside.items row member
  rw [ItemInside, variants, locations, tenant, variant, place] at here
  exact here

theorem HasItem.created {item : InventoryItem} (admitted : admitsStock tenant platform (.createItem item) = true) :
    HasItem platform ⟨tenant, item⟩ (Catalog.applyStock tenant platform (.createItem item)) :=
  ⟨rfl, rfl, _, (Table.find?_some (find?_created admitted)).1, rfl, rfl, rfl⟩

theorem HasItem.modify {item : Tenanted InventoryItem} {now : Platform} (has : HasItem platform item now)
    (selected : Tenanted InventoryItem → Bool) {change : InventoryItem → InventoryItem}
    {id : ∀ item, (change item).id = item.id}
    (kept : ∀ row, (change row).variantId = row.variantId ∧ (change row).locationId = row.locationId) :
    HasItem platform item { now with items := now.items.modify selected (itemChange change id) } := by
  obtain ⟨variants, locations, row, member, tenant, variant, place⟩ := has
  refine ⟨variants, locations, _, Table.mem_modify.mpr ⟨row, member, rfl⟩, ?_⟩
  split
  · exact ⟨tenant, (kept row.row).1.trans variant, (kept row.row).2.trans place⟩
  · exact ⟨tenant, variant, place⟩

theorem HasItem.applyStock {item : Tenanted InventoryItem} {now : Platform} (has : HasItem platform item now)
    (statement : StockWrite) (kept : KeepsItems statement) :
    HasItem platform item (Catalog.applyStock tenant now statement) := by
  cases statement with
  | createItem item => cases kept
  | incrementOnHand id delta now => exact has.modify _ fun _ => ⟨rfl, rfl⟩
  | setReorder id reorderPoint reorderQty now => exact has.modify _ fun _ => ⟨rfl, rfl⟩
  | createMovement movement => exact has

/-- A transaction that goes on from an inserted item without inserting another. -/
theorem InsideTenants.created_iff {α : Type} {next : StockProgram α} {item : InventoryItem}
    (inside : InsideTenants platform) (writes : next.Writes KeepsItems)
    (admitted : admitsStock tenant platform (.createItem item) = true)
    (committed : commitStock tenant next (Catalog.applyStock tenant platform (.createItem item)) = .ok after) :
    InsideTenants after ↔ ItemInside platform ⟨tenant, item⟩ := by
  constructor
  · have has : HasItem platform ⟨tenant, item⟩ after :=
      commitStock_keeps writes (fun statement _ kept has => has.applyStock statement kept)
        (HasItem.created admitted) committed
    exact fun after => has.inside after
  · exact fun own => ((inside.createItemRow admitted).mpr own).stock writes committed

theorem InsideTenants.createItem (inside : InsideTenants platform) {id : InventoryItemId}
    {dto : CreateInventoryItemDto} {now : Instant} :
    InsideTenants (step nfkd platform ⟨tenant, .createItem id dto now⟩) ↔
      StoresOwn nfkd platform ⟨tenant, .createItem id dto now⟩ := by
  simp only [step, CatalogRequest.run, StoresOwn]
  cases slot : findSlot dto.variantId dto.locationId (platform.stockOf tenant) with
  | some existing => simpa [createItem_slot dto existing slot] using inside
  | none =>
      obtain ⟨next, same, writes⟩ := seed_writes (seededItem id dto now)
      rw [createItem_free slot, same, commitStock_write]
      cases admitted : admitsStock tenant platform (.createItem (seededItem id dto now)) with
      | false => simpa using inside
      | true =>
          obtain ⟨after, committed⟩ := seed_commits admitted
          rw [same, commitStock_write, if_pos admitted] at committed
          simp only [if_true, committed, forall_const]
          exact inside.created_iff writes admitted committed

theorem InsideTenants.adjust (inside : InsideTenants platform) {id : InventoryItemId}
    {dto : CreateAdjustmentDto} {now : Instant} :
    InsideTenants (step nfkd platform ⟨tenant, .adjust id dto now⟩) ↔
      StoresOwn nfkd platform ⟨tenant, .adjust id dto now⟩ := by
  simp only [step, CatalogRequest.run, StoresOwn]
  cases slot : findSlot dto.variantId dto.locationId (platform.stockOf tenant) with
  | some existing =>
      rw [adjust_slot slot]
      cases committed : commitStock tenant (applyDelta existing dto now) platform with
      | error reason => simpa using inside
      | ok after => simpa using inside.stock (applyDelta_writes existing dto) committed
  | none =>
      rw [adjust_free slot, commitStock_write]
      cases admitted : admitsStock tenant platform (.createItem (adjustedItem id dto now)) with
      | false => simpa using inside
      | true =>
          by_cases refused : adjustRefused (adjustedItem id dto now) dto
          · simpa [applyDelta_refused refused, refused] using inside
          · have commits : ∃ after, commitStock tenant (applyDelta (adjustedItem id dto now) dto now)
                (Catalog.applyStock tenant platform (.createItem (adjustedItem id dto now))) = .ok after :=
              applyDelta_commits refused admitted
            obtain ⟨after, committed⟩ := commits
            simp only [if_true, committed, forall_const, refused, not_false_eq_true]
            exact inside.created_iff (applyDelta_writes _ dto) admitted committed

theorem InsideTenants.updateItem (inside : InsideTenants platform) {id : InventoryItemId}
    {dto : UpdateInventoryItemDto} {now : Instant}
    (ran : Catalog.updateItem tenant platform id dto now = .ok after) : InsideTenants after := by
  obtain ⟨found, looked, ran⟩ := bind_eq_ok.mp ran
  have looking : (Inventory.findOne id).Writes KeepsItems := by
    rw [Inventory.findOne, Transaction.Program.writes_query_bind]
    intro rows
    cases findItem id rows <;> trivial
  have writing : (Inventory.update id dto now).Writes KeepsItems := ⟨trivial, fun _ => trivial⟩
  exact (inside.stock looking looked).stock writing ran

end Stock

/-- The step lemma: exactly where every id it stores is the tenant's own, a request keeps the references inside. -/
theorem inside_step (nfkd : String → String) {platform : Platform} (action : CatalogAction)
    (inside : InsideTenants platform) : InsideTenants (step nfkd platform action) ↔ StoresOwn nfkd platform action := by
  obtain ⟨tenant, request⟩ := action
  have kept (all : ∀ after, request.run nfkd tenant platform = .ok after → InsideTenants after) :
      InsideTenants (step nfkd platform ⟨tenant, request⟩) := step_keeps nfkd inside all
  cases request with
  | createProduct id dto => exact inside.createProduct
  | createLocation id dto => exact inside.createLocation
  | updateLocation id dto => exact inside.updateLocation
  | createItem id dto now => exact inside.createItem
  | adjust id dto now => exact inside.adjust
  | updateProduct id dto => exact iff_of_true (kept fun _ ran => inside.updateProduct ran) trivial
  | removeProduct id now => exact iff_of_true (kept fun _ ran => inside.removeProduct ran) trivial
  | publishProduct id now => exact iff_of_true (kept fun _ ran => inside.publishProduct ran) trivial
  | createVariant id productId dto => exact iff_of_true (kept fun _ ran => inside.createVariant ran) trivial
  | updateVariant id dto =>
      refine iff_of_true (kept fun _ ran => ?_) trivial
      obtain ⟨_, _, ran⟩ := bind_eq_ok.mp ran
      exact inside.changeVariant (mapUnique_ok.mp ran)
  | removeVariant id now =>
      refine iff_of_true (kept fun _ ran => ?_) trivial
      obtain ⟨_, _, ran⟩ := bind_eq_ok.mp ran
      exact inside.changeVariant (fromDb_ok.mp ran)
  | addImage id productId dto => exact iff_of_true (kept fun _ ran => inside.addImage ran) trivial
  | createCategory id dto => exact iff_of_true (kept fun _ ran => inside.createCategory ran) trivial
  | updateCategory id dto => exact iff_of_true (kept fun _ ran => inside.updateCategory ran) trivial
  | removeCategory id now => exact iff_of_true (kept fun _ ran => inside.removeCategory ran) trivial
  | createBrand id dto =>
      refine iff_of_true (kept fun _ ran => ?_) trivial
      obtain rfl := Platform.insertBrand_ok (mapUnique_ok.mp ran)
      exact inside.brands (Table.Keeps.insert _ _)
  | updateBrand id dto =>
      refine iff_of_true (kept fun _ ran => ?_) trivial
      obtain ⟨_, _, ran⟩ := bind_eq_ok.mp ran
      obtain rfl := Platform.updateBrand_ok (mapUnique_ok.mp ran)
      exact inside.brands (Table.Keeps.modify _ _ _)
  | removeBrand id =>
      refine iff_of_true (kept fun _ ran => ?_) trivial
      obtain ⟨_, _, ran⟩ := bind_eq_ok.mp ran
      exact inside.deleteBrand (fromDb_ok.mp ran)
  | removeLocation id => exact iff_of_true (kept fun _ ran => inside.removeLocation ran) trivial
  | updateItem id dto now => exact iff_of_true (kept fun _ ran => inside.updateItem ran) trivial

/-- References stay inside one tenant in every state of a run exactly when no
request of the run stores an id of another tenant's row. -/
theorem references_inside_iff_own_ids_stored (nfkd : String → String) {start : Platform}
    (inside : InsideTenants start) (trace : List CatalogAction) :
    Visits (step nfkd) InsideTenants start trace ↔ Along (step nfkd) (StoresOwn nfkd) start trace := by
  have exact_step : ∀ platform (action : CatalogAction), True → True → InsideTenants platform →
      (InsideTenants (step nfkd platform action) ↔ StoresOwn nfkd platform action) :=
    fun _ action _ _ here => inside_step nfkd action here
  exact visits_iff_along (fun _ _ _ _ => trivial) exact_step (fun _ _ => trivial) trivial inside

def lampVariant (id : VariantId) (tenant : TenantId) : Variant where
  id := id
  tenantId := tenant
  productId := tenant
  sku := none
  barcode := none
  title := "Default"
  priceCents := 500
  compareAtCents := none
  costCents := none
  currency := "USD"
  weightUnit := .g
  inventoryPolicy := .deny
  taxable := true
  position := 0
  deletedAt := none

/-- Two tenants with a variant each; the first has a location. -/
def twoTenants : Platform where
  stores := .empty
  addresses := .empty
  media := .empty
  brands := .empty
  categories := .empty
  products := .empty
  variants := (Table.empty.insert (lampVariant 7 1)).insert (lampVariant 8 2)
  images := .empty
  locations := Table.empty.insert { id := 5, tenantId := 1, name := "Depot", isDefault := true, addressId := none }
  items := .empty
  movements := []

theorem twoTenants_inside : InsideTenants twoTenants :=
  ⟨by decide, by decide, by decide, by decide⟩

/-- The first tenant stocks a variant. -/
def stocks (variantId : VariantId) : CatalogAction where
  tenant := 1
  request := .createItem 1 ⟨variantId, 5, some 2, none, none⟩ 0

theorem foreign_variant_stocked :
    ¬ ∀ nfkd start, InsideTenants start → ∀ trace, Visits (step nfkd) InsideTenants start trace := by
  intro always
  have after := (always id twoTenants twoTenants_inside [stocks 8]).last
  have item : ItemInside (step id twoTenants (stocks 8)) ⟨1, seededItem 1 ⟨8, 5, some 2, none, none⟩ 0⟩ :=
    after.items _ (by decide)
  exact absurd item (by decide)

theorem references_inside_own_variant :
    Visits (step id) InsideTenants twoTenants [stocks 7] := by
  apply (references_inside_iff_own_ids_stored id twoTenants_inside [stocks 7]).mpr
  exact ⟨fun _ _ => by decide, trivial⟩

end Aicos.Properties
