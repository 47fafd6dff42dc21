import Aicos.Import.Service

namespace Aicos.Import

open Aicos.Catalog Aicos.Data Aicos.Transition
open Aicos.Commerce (TenantId)

attribute [local irreducible] slugify

/-! What one row leaves: which rows go through, and what the catalogue then holds. -/

section Statements

variable {α β : Type} {tx : ImportTx α} {next : α → ImportTx β} {platform after : Platform}

theorem bind_ok {result : β} : (tx >>= next) platform = (.ok result, after) ↔
    ∃ value between, tx platform = (.ok value, between) ∧ next value between = (.ok result, after) := by
  simp only [bind]
  rcases tx platform with ⟨_ | _, between⟩ <;> simp

theorem pure_ok {value result : α} : (pure value : ImportTx α) platform = (.ok result, after) ↔
    value = result ∧ platform = after := by
  simp [pure]

theorem query_ok {shown : Platform} : query platform = (.ok shown, after) ↔ platform = shown ∧ platform = after := by
  simp [query]

theorem execute_ok {statement : Platform → Except DbError Platform} :
    execute statement platform = (.ok (), after) ↔ statement platform = .ok after := by
  unfold execute
  cases statement platform <;> simp

end Statements

section Columns

variable (tenant : TenantId) (platform : Platform)

def SlugTaken (slug : String) : Prop :=
  ∃ product ∈ platform.products.rows, product.tenantId = tenant ∧ product.slug = slug

def SkuTaken (sku : Option String) : Prop :=
  ∃ variant ∈ platform.variants.rows, variant.tenantId = tenant ∧ variant.sku.isSome ∧ variant.sku = sku

def BrandNamed (name : String) : Prop :=
  ∃ brand ∈ platform.brands.rows, brand.tenantId = tenant ∧ brand.name = name

def BrandSlugTaken (slug : String) : Prop :=
  ∃ brand ∈ platform.brands.rows, brand.tenantId = tenant ∧ brand.slug = slug

end Columns

variable (runtime : Runtime) (tenant : TenantId)

/-- The brand of a row is there, or can be made. -/
def BrandFree (platform : Platform) (row : ImportRow) : Prop :=
  ∀ name ∈ row.brandName, BrandNamed tenant platform name ∨
    ¬ BrandSlugTaken tenant platform (slugify runtime.toLowerCase name)

/-- No row and no column stands in the way of a row. -/
structure Free (platform : Platform) (row : ImportRow) : Prop where
  slug : ¬ SlugTaken tenant platform (slugify runtime.toLowerCase row.title)
  storable : runtime.storable row = true
  brand : BrandFree runtime tenant platform row
  sku : ¬ SkuTaken tenant platform row.sku

/-- The catalogue has one product and one variant more, and at most one brand. -/
structure Created (platform : Platform) (row : ImportRow) (after : Platform) : Prop where
  product : ∃ brandId, after.products.rows =
    platform.products.rows ++ [importedProduct runtime tenant row brandId platform]
  variant : after.variants.rows = platform.variants.rows ++
    [importedVariant runtime tenant row (runtime.keys.next (platform.products.rows.map Product.id)) platform]
  brand : after.brands.rows = platform.brands.rows ∨ ∃ name ∈ row.brandName,
    ¬ BrandSlugTaken tenant platform (slugify runtime.toLowerCase name) ∧
      after.brands.rows = platform.brands.rows ++ [importedBrand runtime tenant name platform]

variable {runtime tenant} {platform after : Platform} {row : ImportRow}

theorem fresh_key {α : Type} [TenantRow α] (keys : KeySource) (table : Table α) :
    table.find? (keys.next (table.rows.map TenantRow.id)) = none :=
  Table.find?_eq_none.mpr (keys.fresh _)

theorem findBrandByName_some {name : String} {brand : Brand}
    (found : findBrandByName tenant name platform = some brand) :
    brand ∈ platform.brands.rows ∧ brand.tenantId = tenant ∧ brand.name = name :=
  ⟨List.mem_of_find?_eq_some found, by simpa using List.find?_some found⟩

theorem findBrandByName_none {name : String} : findBrandByName tenant name platform = none ↔
    ¬ BrandNamed tenant platform name := by
  simp [findBrandByName, BrandNamed]

theorem findProductBySlug_isSome {slug : String} : (findProductBySlug tenant slug platform).isSome = true ↔
    SlugTaken tenant platform slug := by
  simp [findProductBySlug, SlugTaken]

theorem insertBrand_iff {brand : Brand} : platform.insertBrand brand = .ok after ↔
    platform.brands.find? brand.id = none ∧ ¬ BrandSlugTaken brand.tenantId platform brand.slug ∧
      after = { platform with brands := platform.brands.insert brand } := by
  rw [Platform.insertBrand, map_eq_ok]
  simp only [Table.tryInsert_ok_iff, brandClash, BrandSlugTaken]
  constructor
  · rintro ⟨_, ⟨fresh, free, _, rfl⟩, rfl⟩
    refine ⟨fresh, ?_, rfl⟩
    intro given
    obtain ⟨other, member, mine, same⟩ := given
    simpa [mine, same] using free other member
  · rintro ⟨fresh, free, rfl⟩
    refine ⟨_, ⟨fresh, fun other member => ?_, trivial, rfl⟩, rfl⟩
    by_contra clashes
    have same : brand.tenantId = other.tenantId ∧ brand.slug = other.slug := by simpa using clashes
    exact free ⟨other, member, same.1.symm, same.2.symm⟩

/-- What the brand step of a row leaves. -/
structure Branded (runtime : Runtime) (tenant : TenantId) (platform : Platform) (row : ImportRow)
    (brandId : Option BrandId) (after : Platform) : Prop where
  free : BrandFree runtime tenant platform row
  frame : after = { platform with brands := after.brands }
  stored : after.brands.admits brandId = true
  brand : after.brands.rows = platform.brands.rows ∨ ∃ name ∈ row.brandName,
    ¬ BrandSlugTaken tenant platform (slugify runtime.toLowerCase name) ∧
      after.brands.rows = platform.brands.rows ++ [importedBrand runtime tenant name platform]

theorem admits_of_mem {α : Type} [TenantRow α] {table : Table α} {row : α} (member : row ∈ table.rows) :
    table.admits (some (TenantRow.id row)) = true := by
  simp [Table.admits, Table.has, Table.find?_of_mem member]

theorem brandFor_ok {name : String} {brandId : BrandId} (named : row.brandName = some name)
    (ran : brandFor runtime tenant name platform = (.ok brandId, after)) :
    Branded runtime tenant platform row (some brandId) after := by
  obtain ⟨shown, _, queried, ran⟩ := bind_ok.mp ran
  obtain ⟨rfl, rfl⟩ := query_ok.mp queried
  cases found : findBrandByName tenant name platform with
  | some brand =>
      simp only [found] at ran
      obtain ⟨rfl, rfl⟩ := pure_ok.mp ran
      obtain ⟨member, mine, same⟩ := findBrandByName_some found
      have there : BrandNamed tenant platform name := ⟨brand, member, mine, same⟩
      refine ⟨fun other same => ?_, rfl, admits_of_mem member, .inl rfl⟩
      obtain rfl : name = other := Option.some.inj (named.symm.trans same)
      exact .inl there
  | none =>
      simp only [found] at ran
      obtain ⟨_, between, executed, ran⟩ := bind_ok.mp ran
      obtain ⟨rfl, rfl⟩ := pure_ok.mp ran
      obtain ⟨fresh, free, rfl⟩ := insertBrand_iff.mp (execute_ok.mp executed)
      have rows := Table.rows_insert fresh
      have member : importedBrand runtime tenant name platform ∈
          (platform.brands.insert (importedBrand runtime tenant name platform)).rows := by simp [rows]
      refine ⟨fun other same => ?_, rfl, admits_of_mem member, .inr ⟨name, named, free, rows⟩⟩
      obtain rfl : name = other := Option.some.inj (named.symm.trans same)
      exact .inr free

theorem brandIdOf_ok {brandId : Option BrandId} (ran : brandIdOf runtime tenant row platform = (.ok brandId, after)) :
    Branded runtime tenant platform row brandId after := by
  unfold brandIdOf at ran
  cases named : row.brandName with
  | none =>
      simp only [named] at ran
      obtain ⟨rfl, rfl⟩ := pure_ok.mp ran
      exact ⟨by simp [BrandFree, named], rfl, rfl, .inl rfl⟩
  | some name =>
      simp only [named] at ran
      obtain ⟨id, between, made, ran⟩ := bind_ok.mp ran
      obtain ⟨rfl, rfl⟩ := pure_ok.mp ran
      exact brandFor_ok named made

theorem brandIdOf_of_free (free : BrandFree runtime tenant platform row) :
    ∃ brandId after, brandIdOf runtime tenant row platform = (.ok brandId, after) := by
  unfold brandIdOf
  cases named : row.brandName with
  | none => exact ⟨none, platform, rfl⟩
  | some name =>
      suffices made : ∃ id after, brandFor runtime tenant name platform = (.ok id, after) by
        obtain ⟨id, after, made⟩ := made
        exact ⟨some id, after, bind_ok.mpr ⟨id, after, made, rfl⟩⟩
      unfold brandFor
      cases found : findBrandByName tenant name platform with
      | some brand =>
          refine ⟨brand.id, platform, bind_ok.mpr ⟨platform, platform, rfl, ?_⟩⟩
          simp only [found]
          rfl
      | none =>
          have unused := (free name named).resolve_left (findBrandByName_none.mp found)
          obtain ⟨added, inserted⟩ : ∃ added, platform.insertBrand (importedBrand runtime tenant name platform) = .ok added :=
            ⟨_, insertBrand_iff.mpr ⟨fresh_key runtime.keys platform.brands, unused, rfl⟩⟩
          refine ⟨(importedBrand runtime tenant name platform).id, added, bind_ok.mpr ⟨platform, platform, rfl, ?_⟩⟩
          simp only [found]
          exact bind_ok.mpr ⟨(), added, execute_ok.mpr inserted, rfl⟩

theorem insertProduct_iff {product : Product} (plain : product.storeId = none ∧ product.primaryImageId = none) :
    platform.insertProduct false product = .ok after ↔
      platform.products.find? product.id = none ∧ ¬ SlugTaken product.tenantId platform product.slug ∧
        platform.brands.admits product.brandId = true ∧
        after = { platform with products := platform.products.insert product } := by
  rw [Platform.insertProduct, map_eq_ok]
  simp only [Table.tryInsert_ok_iff, productClash, Platform.productForeign, plain.1, plain.2, SlugTaken]
  constructor
  · rintro ⟨_, ⟨fresh, free, met, rfl⟩, rfl⟩
    refine ⟨fresh, ?_, by simpa [Table.admits] using met, rfl⟩
    intro given
    obtain ⟨other, member, mine, same⟩ := given
    simpa [mine, same] using free other member
  · rintro ⟨fresh, free, met, rfl⟩
    refine ⟨_, ⟨fresh, fun other member => ?_, by simpa [Table.admits] using met, rfl⟩, rfl⟩
    by_contra clashes
    have same : product.tenantId = other.tenantId ∧ product.slug = other.slug := by simpa using clashes
    exact free ⟨other, member, same.1.symm, same.2.symm⟩

theorem insertVariant_iff {variant : Variant} : platform.insertVariant variant = .ok after ↔
    platform.variants.find? variant.id = none ∧ ¬ SkuTaken variant.tenantId platform variant.sku ∧
      platform.products.has variant.productId = true ∧
      after = { platform with variants := platform.variants.insert variant } := by
  rw [Platform.insertVariant, map_eq_ok]
  simp only [Table.tryInsert_ok_iff, variantClash, SkuTaken]
  constructor
  · rintro ⟨_, ⟨fresh, free, met, rfl⟩, rfl⟩
    refine ⟨fresh, ?_, met, rfl⟩
    intro given
    obtain ⟨other, member, mine, given, same⟩ := given
    rw [same] at given
    simpa [mine, same, given] using free other member
  · rintro ⟨fresh, free, met, rfl⟩
    refine ⟨_, ⟨fresh, fun other member => ?_, met, rfl⟩, rfl⟩
    by_contra clashes
    have same : variant.tenantId = other.tenantId ∧ variant.sku.isSome = true ∧ variant.sku = other.sku := by
      simpa using clashes
    exact free ⟨other, member, same.1.symm, same.2.2 ▸ same.2.1, same.2.2.symm⟩

theorem requireStorable_ok : requireStorable runtime row platform = (.ok (), after) ↔
    runtime.storable row = true ∧ platform = after := by
  unfold requireStorable
  split
  · rename_i stored
    simp [pure, stored]
  · rename_i refused
    simp [throwing, refused]

theorem importRow_created (ran : importRow runtime tenant row platform = (.ok true, after)) :
    Free runtime tenant platform row ∧ Created runtime tenant platform row after := by
  obtain ⟨shown, _, queried, ran⟩ := bind_ok.mp ran
  obtain ⟨rfl, rfl⟩ := query_ok.mp queried
  split at ran
  · cases (pure_ok.mp ran).1
  · rename_i unused
    obtain ⟨_, between, required, ran⟩ := bind_ok.mp ran
    obtain ⟨storable, rfl⟩ := requireStorable_ok.mp required
    obtain ⟨brandId, withBrand, branding, ran⟩ := bind_ok.mp ran
    obtain ⟨free, frame, _, brand⟩ := brandIdOf_ok branding
    generalize withBrand.brands = brands at frame
    subst frame
    obtain ⟨_, _, queried, ran⟩ := bind_ok.mp ran
    obtain ⟨rfl, rfl⟩ := query_ok.mp queried
    obtain ⟨_, withProduct, inserted, ran⟩ := bind_ok.mp ran
    obtain ⟨freshProduct, _, _, rfl⟩ := (insertProduct_iff ⟨rfl, rfl⟩).mp (execute_ok.mp inserted)
    obtain ⟨_, withVariant, executed, ran⟩ := bind_ok.mp ran
    obtain ⟨freshVariant, unsold, _, rfl⟩ := insertVariant_iff.mp (execute_ok.mp executed)
    obtain ⟨_, rfl⟩ := pure_ok.mp ran
    refine ⟨⟨fun taken => unused (findProductBySlug_isSome.mpr taken), storable, free, unsold⟩, ?_, ?_, brand⟩
    · exact ⟨brandId, Table.rows_insert freshProduct⟩
    · exact Table.rows_insert freshVariant

theorem importRow_of_free (free : Free runtime tenant platform row) :
    ∃ after, importRow runtime tenant row platform = (.ok true, after) := by
  obtain ⟨brandId, withBrand, branding⟩ := brandIdOf_of_free free.brand
  obtain ⟨_, frame, stored, _⟩ := brandIdOf_ok branding
  generalize withBrand.brands = brands at frame stored
  subst frame
  have unused : ¬ (findProductBySlug tenant (slugify runtime.toLowerCase row.title) platform).isSome = true :=
    fun found => free.slug (findProductBySlug_isSome.mp found)
  let product := importedProduct runtime tenant row brandId { platform with brands := brands }
  let withProduct : Platform := { platform with brands := brands, products := platform.products.insert product }
  have freshProduct : platform.products.find? product.id = none := fresh_key runtime.keys platform.products
  have there : product ∈ withProduct.products.rows := by simp [withProduct, Table.rows_insert freshProduct]
  have inserted : ({ platform with brands := brands } : Platform).insertProduct false product = .ok withProduct :=
    (insertProduct_iff ⟨rfl, rfl⟩).mpr ⟨freshProduct, free.slug, stored, rfl⟩
  obtain ⟨after, executed⟩ : ∃ after,
      withProduct.insertVariant (importedVariant runtime tenant row product.id withProduct) = .ok after :=
    ⟨_, insertVariant_iff.mpr ⟨fresh_key runtime.keys platform.variants, free.sku, admits_of_mem there, rfl⟩⟩
  refine ⟨after, bind_ok.mpr ⟨platform, platform, rfl, ?_⟩⟩
  rw [if_neg unused]
  refine bind_ok.mpr ⟨(), platform, requireStorable_ok.mpr ⟨free.storable, rfl⟩, bind_ok.mpr ⟨_, _, branding, ?_⟩⟩
  refine bind_ok.mpr ⟨_, _, rfl, bind_ok.mpr ⟨(), withProduct, execute_ok.mpr inserted, ?_⟩⟩
  exact bind_ok.mpr ⟨(), after, execute_ok.mpr executed, rfl⟩

theorem importRow_skipped (ran : importRow runtime tenant row platform = (.ok false, after)) :
    SlugTaken tenant platform (slugify runtime.toLowerCase row.title) ∧ after = platform := by
  obtain ⟨shown, _, queried, ran⟩ := bind_ok.mp ran
  obtain ⟨rfl, rfl⟩ := query_ok.mp queried
  split at ran
  · rename_i found
    exact ⟨findProductBySlug_isSome.mp found, (pure_ok.mp ran).2.symm⟩
  · obtain ⟨_, _, _, ran⟩ := bind_ok.mp ran
    obtain ⟨_, _, _, ran⟩ := bind_ok.mp ran
    obtain ⟨_, _, _, ran⟩ := bind_ok.mp ran
    obtain ⟨_, _, _, ran⟩ := bind_ok.mp ran
    obtain ⟨_, _, _, ran⟩ := bind_ok.mp ran
    cases (pure_ok.mp ran).1

section Loop

variable {current : ImportRun}

theorem importStep_created (free : Free runtime tenant current.platform row) :
    ∃ after, Created runtime tenant current.platform row after ∧ importStep runtime tenant current row =
      { platform := after, summary := { current.summary with created := current.summary.created + 1 } } := by
  obtain ⟨after, ran⟩ := importRow_of_free free
  refine ⟨after, (importRow_created ran).2, ?_⟩
  simp [importStep, forTenant, ran]

theorem importStep_error {error : ImportError}
    (failed : (importRow runtime tenant row current.platform).1 = .error error) :
    importStep runtime tenant current row =
      { platform := current.platform
        summary := { current.summary with
          errors := current.summary.errors ++ [s!"{row.title}: {runtime.message error}"] } } := by
  rcases ran : importRow runtime tenant row current.platform with ⟨_ | _, after⟩
  · rw [ran] at failed
    obtain rfl := Except.error.inj failed
    simp [importStep, forTenant, ran]
  · rw [ran] at failed
    cases failed

theorem importStep_refused (refused : ¬ Free runtime tenant current.platform row) :
    (importStep runtime tenant current row).platform = current.platform ∧
      (importStep runtime tenant current row).summary.created = current.summary.created := by
  rcases ran : importRow runtime tenant row current.platform with ⟨error | ⟨_ | _⟩, after⟩
  · rw [importStep_error (congrArg Prod.fst ran)]
    exact ⟨rfl, rfl⟩
  · obtain ⟨_, rfl⟩ := importRow_skipped ran
    simp [importStep, forTenant, ran]
  · exact absurd (importRow_created ran).1 refused

end Loop

end Aicos.Import
