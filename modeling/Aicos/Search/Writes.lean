import Aicos.Search.Indexer

namespace Aicos.Search

open Aicos.Catalog Aicos.Data Aicos.Transition
open Aicos.Commerce (TenantId VariantId Instant bind_eq_ok)

/-! What the second transaction of a request changes: rows stay where they are, and
only the document of the product that the indexer then follows can change, but for
the name of a brand, which nothing follows. -/

def placeOf (platform : Platform) (id : VariantId) : Option (ProductId × TenantId) :=
  (platform.variants.find? id).map fun row => (row.productId, row.tenantId)

/-- Products stay with their tenants and variants with their products. -/
structure Persists (platform after : Platform) : Prop where
  products : platform.products.Keeps after.products
  variants : ∀ id place, placeOf platform id = some place → placeOf after id = some place

/-- Every variant is of a product of its own tenant. -/
def VariantsOwned (platform : Platform) : Prop :=
  ∀ variant ∈ platform.variants.rows, platform.products.ownerOf variant.productId = some variant.tenantId

/-- What a request knows of the rows it is about to write or read. -/
def Phase.Placed (tenant : TenantId) (platform : Platform) : Phase → Prop
  | .checked (.createVariant _ productId _ _) => platform.products.ownerOf productId = some tenant
  | .checked (.updateVariant id productId _) => placeOf platform id = some (productId, tenant)
  | .checked (.removeVariant id productId _) => placeOf platform id = some (productId, tenant)
  | .checked _ => True
  | .syncing (.reading id) => platform.products.ownerOf id = some tenant
  | .syncing (.writing _ _) => True

/-- The write gives a live product's document another brand name. -/
def CatalogWrite.Renames (tenant : TenantId) (platform : Platform) (id : ProductId) : CatalogWrite → Prop
  | .updateBrand brandId dto =>
      ∃ brand product, platform.brands.visible tenant brandId = some brand ∧ dto.name.getD brand.name ≠ brand.name ∧
        platform.products.visible tenant id = some product ∧ product.deletedAt = none ∧ product.brandId = some brandId
  | _ => False

/-- All that a write does. -/
structure Effect (fixed : Fixed) (tenant : TenantId) (write : CatalogWrite) (platform after : Platform) : Prop where
  persists : Persists platform after
  owned : VariantsOwned platform → VariantsOwned after
  follow : ∀ sync ∈ write.follow, (Phase.syncing sync).Placed tenant after
  docs : ∀ id, docOf fixed after id = docOf fixed platform id ∨
    (∃ sync ∈ write.follow, sync.Fresh (docOf fixed after) id) ∨ write.Renames tenant platform id

variable {fixed : Fixed} {tenant : TenantId} {platform after : Platform} {id : ProductId}

theorem Persists.refl (platform : Platform) : Persists platform platform :=
  ⟨Table.Keeps.refl _, fun _ _ same => same⟩

theorem Persists.placed {phase : Phase} (persists : Persists platform after) (placed : phase.Placed tenant platform) :
    phase.Placed tenant after := by
  match phase, placed with
  | .checked (.createVariant _ productId _ _), placed => exact persists.products productId tenant placed
  | .checked (.updateVariant id _ _), placed => exact persists.variants id _ placed
  | .checked (.removeVariant id _ _), placed => exact persists.variants id _ placed
  | .checked (.createProduct _ _ _), _ => trivial
  | .checked (.updateProduct _ _), _ => trivial
  | .checked (.removeProduct _ _), _ => trivial
  | .checked (.publishProduct _ _), _ => trivial
  | .checked (.updateBrand _ _), _ => trivial
  | .syncing (.reading id), placed => exact persists.products id tenant placed
  | .syncing (.writing _ _), _ => trivial

section Products

theorem persists_products {products : Table Product} (keeps : platform.products.Keeps products) :
    Persists platform { platform with products } :=
  ⟨keeps, fun _ _ same => same⟩

theorem VariantsOwned.products {products : Table Product} (owned : VariantsOwned platform)
    (keeps : platform.products.Keeps products) : VariantsOwned { platform with products } :=
  fun variant member => keeps _ _ (owned variant member)

theorem docOf_products {products : Table Product} (same : products.find? id = platform.products.find? id) :
    docOf fixed { platform with products } id = docOf fixed platform id :=
  docOf_congr same (fun _ => rfl) fun _ _ _ _ _ => rfl

theorem insertProduct_effect {write : CatalogWrite} {dangling : Bool} {row : Product}
    (follow : write.follow = some (.reading row.id)) (mine : row.tenantId = tenant)
    (inserted : platform.insertProduct dangling row = .ok after) : Effect fixed tenant write platform after := by
  obtain ⟨fresh, rfl⟩ := Platform.insertProduct_ok inserted
  have keeps := Table.Keeps.insert platform.products row
  refine ⟨persists_products keeps, fun owned => owned.products keeps, ?_, fun other => ?_⟩
  · rw [follow]
    rintro _ ⟨⟩
    exact Table.ownerOf_eq_some.mpr ⟨row, by simp [Table.find?_insert fresh, TenantRow.id], mine⟩
  · by_cases same : other = row.id
    · exact .inr (.inl ⟨_, follow, same.symm⟩)
    · refine .inl (docOf_products ?_)
      rw [Table.find?_insert fresh, if_neg fun key => same key.symm]

theorem updateProduct_persists (fixed : Fixed) {change : Change Product}
    (updated : platform.updateProduct tenant id change = .ok after) :
    Persists platform after ∧ (VariantsOwned platform → VariantsOwned after) ∧
      after.products.ownerOf id = some tenant ∧
      (∀ other ≠ id, docOf fixed after other = docOf fixed platform other) ∧
      ∃ row, after.products.find? id = some (change.apply row) := by
  obtain ⟨row, shown, rfl⟩ := Platform.updateProduct_ok updated
  obtain ⟨found, mine⟩ := Table.visible_eq_some.mp shown
  have keeps := Table.Keeps.modify platform.products (fun row => TenantRow.id row = id) change
  refine ⟨persists_products keeps, fun owned => owned.products keeps, ?_, fun other apart => ?_, row, ?_⟩
  · exact keeps _ _ (Table.ownerOf_eq_some.mpr ⟨row, found, mine⟩)
  · refine docOf_products ?_
    rw [Table.update, Table.find?_modify]
    cases there : platform.products.find? other with
    | none => rfl
    | some old =>
        have key : ¬ TenantRow.id old = id := fun same => apart ((Table.find?_some there).2.symm.trans same)
        simp [key]
  · rw [Table.update, Table.find?_modify, found]
    simp [(Table.find?_some found).2]

theorem updateProduct_effect {write : CatalogWrite} {change : Change Product}
    (follow : write.follow = some (.reading id)) (updated : platform.updateProduct tenant id change = .ok after) :
    Effect fixed tenant write platform after := by
  obtain ⟨persists, owned, owner, docs, _⟩ := updateProduct_persists fixed updated
  refine ⟨persists, owned, ?_, fun other => ?_⟩
  · rw [follow]
    rintro _ ⟨⟩
    exact owner
  · by_cases same : other = id
    · exact .inr (.inl ⟨_, follow, same.symm⟩)
    · exact .inl (docs other same)

/-- `removeProduct` is followed by a deletion, which is right for a removed product. -/
theorem removeProduct_effect {now : Instant}
    (updated : platform.updateProduct tenant id (removeChange now) = .ok after) :
    Effect fixed tenant (.removeProduct id now) platform after := by
  obtain ⟨persists, owned, owner, docs, row, found⟩ := updateProduct_persists fixed updated
  refine ⟨persists, owned, ?_, fun other => ?_⟩
  · rintro _ ⟨⟩
    trivial
  · by_cases same : other = id
    · refine .inr (.inl ⟨_, rfl, same.symm, ?_⟩)
      rw [same, docOf_removed found (by simp [removeChange])]
    · exact .inl (docs other same)

end Products

section Variants

theorem placeOf_some {place : ProductId × TenantId} : placeOf platform id = some place ↔
    ∃ row, platform.variants.find? id = some row ∧ row.productId = place.1 ∧ row.tenantId = place.2 := by
  simp [placeOf, Prod.ext_iff]

theorem docOf_variants {variants : Table Variant}
    (same : ∀ tenant, liveVariants tenant { platform with variants } id = liveVariants tenant platform id) :
    docOf fixed { platform with variants } id = docOf fixed platform id :=
  docOf_congr rfl same fun _ _ _ _ _ => rfl

theorem insertVariant_effect {write : CatalogWrite} {row : Variant}
    (follow : write.follow = some (.reading row.productId)) (mine : row.tenantId = tenant)
    (owner : platform.products.ownerOf row.productId = some tenant) (inserted : platform.insertVariant row = .ok after) :
    Effect fixed tenant write platform after := by
  obtain ⟨fresh, rfl⟩ := Platform.insertVariant_ok inserted
  refine ⟨⟨Table.Keeps.refl _, fun other place held => ?_⟩, fun owned => ?_, ?_, fun other => ?_⟩
  · obtain ⟨old, found, place⟩ := placeOf_some.mp held
    have apart : TenantRow.id row ≠ other := by
      rintro rfl
      cases fresh.symm.trans found
    refine placeOf_some.mpr ⟨old, ?_, place⟩
    rw [Table.find?_insert fresh, if_neg apart, found]
  · exact (Table.forall_insert fresh).mpr ⟨owned, mine ▸ owner⟩
  · rw [follow]
    rintro _ ⟨⟩
    exact owner
  · by_cases same : other = row.productId
    · exact .inr (.inl ⟨_, follow, same.symm⟩)
    · refine .inl (docOf_variants fun seen => ?_)
      have hidden : row.productId ≠ other := fun equal => same equal.symm
      simp [liveVariants, Table.rows_insert fresh, hidden]

theorem updateVariant_effect {write : CatalogWrite} {id : VariantId} {productId : ProductId} {change : Change Variant}
    (follow : write.follow = some (.reading productId)) (place : placeOf platform id = some (productId, tenant))
    (stays : ∀ row, (change.apply row).productId = row.productId) (owned : VariantsOwned platform)
    (updated : platform.updateVariant tenant id change = .ok after) : Effect fixed tenant write platform after := by
  obtain rfl := Platform.updateVariant_ok updated
  obtain ⟨row, found, product, mine⟩ := placeOf_some.mp place
  obtain rfl : row.productId = productId := product
  obtain rfl : row.tenantId = tenant := mine
  have owner := owned row (Table.find?_some found).1
  refine ⟨⟨Table.Keeps.refl _, fun other held there => ?_⟩, fun _ => ?_, ?_, fun other => ?_⟩
  · obtain ⟨old, found, place⟩ := placeOf_some.mp there
    refine placeOf_some.mpr ⟨if TenantRow.id old = id then change.apply old else old, ?_, ?_⟩
    · simp [Table.update, Table.find?_modify, found]
    · split
      · rw [stays]
        exact ⟨place.1, (change.tenantId old).trans place.2⟩
      · exact place
  · refine Table.forall_modify owned fun old good => ?_
    have kept : (change.apply old).tenantId = old.tenantId := change.tenantId old
    rw [stays, kept]
    exact good
  · rw [follow]
    rintro _ ⟨⟩
    exact owner
  · by_cases same : other = row.productId
    · exact .inr (.inl ⟨_, follow, same.symm⟩)
    · refine .inl (docOf_variants fun seen => ?_)
      have mine {old : Variant} (member : old ∈ platform.variants.rows) (key : TenantRow.id old = id) : old = row := by
        have there := Table.find?_of_mem member
        rw [key, found] at there
        exact (Option.some.inj there).symm
      have hidden : row.productId ≠ other := fun equal => same equal.symm
      rw [liveVariants, liveVariants]
      refine (filter_updateWhere fun old member selected => ?_).trans (updateWhere_of_forall_not fun old kept => ?_)
      · obtain rfl := mine member (of_decide_eq_true selected)
        simp [stays, hidden]
      · obtain ⟨member, shown⟩ := List.mem_filter.mp kept
        refine decide_eq_false fun key => ?_
        obtain rfl := mine member key
        simp [hidden] at shown

end Variants

section Brands

theorem updateBrand_effect {id : BrandId} {dto : UpdateBrandDto}
    (updated : platform.updateBrand tenant id (brandChange dto) = .ok after) :
    Effect fixed tenant (.updateBrand id dto) platform after := by
  obtain ⟨brands, ran, rfl⟩ := map_eq_ok.mp updated
  obtain ⟨brand, shown, _, rfl⟩ := Table.tryUpdate_ok ran
  obtain ⟨found, mine⟩ := Table.visible_eq_some.mp shown
  refine ⟨⟨Table.Keeps.refl _, fun _ _ held => held⟩, fun owned => owned, ?_, fun other => ?_⟩
  · rintro _ ⟨⟩
  · refine or_iff_not_imp_right.mpr fun unnamed => docOf_congr rfl (fun _ => rfl) fun row there live name named => ?_
    rw [Table.visible, Table.visible, Table.update, Table.find?_modify]
    by_cases here : name = id
    · subst here
      by_cases ours : row.tenantId = tenant
      · have kept : dto.name.getD brand.name = brand.name := by
          by_contra renamed
          exact unnamed (.inr ⟨brand, row, shown, renamed, Table.visible_eq_some.mpr ⟨there, ours⟩, live, named⟩)
        rw [found, Option.map_some, if_pos (by simpa using (Table.find?_some found).2)]
        have owner : TenantRow.tenantId ((brandChange dto).apply brand) = tenant :=
          ((brandChange dto).tenantId brand).trans mine
        have sameName : ((brandChange dto).apply brand).name = brand.name := kept
        simp [Option.filter, owner, sameName, mine, ours]
      · have foreign : ¬ TenantRow.tenantId brand = row.tenantId := fun same => ours (same.symm.trans mine)
        rw [found, Option.map_some, if_pos (by simpa using (Table.find?_some found).2)]
        simp [Option.filter, (brandChange dto).tenantId, foreign]
    · cases held : platform.brands.find? name with
      | none => rfl
      | some old =>
          have key : ¬ TenantRow.id old = id := fun same => here ((Table.find?_some held).2.symm.trans same)
          simp [key]

end Brands

theorem CatalogWrite.effect {write : CatalogWrite} (placed : (Phase.checked write).Placed tenant platform)
    (owned : VariantsOwned platform) (ran : write.run tenant platform = .ok after) :
    Effect fixed tenant write platform after := by
  cases write with
  | createProduct id slug dto => exact insertProduct_effect rfl rfl ran
  | updateProduct id dto =>
      obtain ⟨_, _, ran⟩ := bind_eq_ok.mp ran
      obtain ⟨_, _, ran⟩ := bind_eq_ok.mp ran
      exact updateProduct_effect rfl ran
  | removeProduct id now => exact removeProduct_effect ran
  | publishProduct id now => exact updateProduct_effect rfl ran
  | createVariant id productId sku dto =>
      have owner : platform.products.ownerOf productId = some tenant := placed
      exact insertVariant_effect rfl rfl owner ran
  | updateVariant id productId dto => exact updateVariant_effect rfl placed (fun _ => rfl) owned ran
  | removeVariant id productId now => exact updateVariant_effect rfl placed (fun _ => rfl) owned ran
  | updateBrand id dto => exact updateBrand_effect ran

end Aicos.Search
