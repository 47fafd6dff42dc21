import Aicos.Import.Rows

namespace Aicos.Properties

open Aicos.Catalog Aicos.Data Aicos.Import Aicos.Transition
open Aicos.Commerce (TenantId)

/-! Which rows of a file become products.  A row is known by the slug of its title, and
a brand is found by its name but stored under a slug of its own. -/

section Sources

attribute [local irreducible] Import.slugify

variable (runtime : Runtime) (tenant : TenantId)

/-- What an import leaves is there before it or comes from one of its rows. -/
structure Sourced (platform : Platform) (rows : List ImportRow) (after : Platform) : Prop where
  product : ∀ product ∈ after.products.rows, product ∈ platform.products.rows ∨
    ∃ row ∈ rows, product.slug = Import.slugify runtime.toLowerCase row.title
  variant : ∀ variant ∈ after.variants.rows, variant ∈ platform.variants.rows ∨ ∃ row ∈ rows, variant.sku = row.sku
  brand : ∀ brand ∈ after.brands.rows, brand ∈ platform.brands.rows ∨
    ∃ row ∈ rows, ∃ name ∈ row.brandName, brand.tenantId = tenant ∧ brand.name = name ∧
      brand.slug = Import.slugify runtime.toLowerCase name

/-- Rows stay. -/
structure Retained (platform after : Platform) : Prop where
  products : platform.products.rows ⊆ after.products.rows
  variants : platform.variants.rows ⊆ after.variants.rows
  brands : platform.brands.rows ⊆ after.brands.rows

/-- No product and no earlier row has the title's slug, none has the SKU, and the brand
is known by its name or its slug is that of no other brand. -/
structure RowUnrivalled (platform : Platform) (earlier : List ImportRow) (row : ImportRow) : Prop where
  slug : ¬ SlugTaken tenant platform (Import.slugify runtime.toLowerCase row.title)
  slugs : ∀ other ∈ earlier,
    Import.slugify runtime.toLowerCase other.title ≠ Import.slugify runtime.toLowerCase row.title
  sku : ¬ SkuTaken tenant platform row.sku
  skus : ∀ other ∈ earlier, row.sku.isSome → other.sku ≠ row.sku
  brand : ∀ name ∈ row.brandName, BrandNamed tenant platform name ∨
    (¬ BrandSlugTaken tenant platform (Import.slugify runtime.toLowerCase name) ∧
      ∀ other ∈ earlier, ∀ rival ∈ other.brandName,
        Import.slugify runtime.toLowerCase rival = Import.slugify runtime.toLowerCase name → rival = name)

variable {runtime tenant} {platform after : Platform} {row : ImportRow} {rows earlier later : List ImportRow}

theorem Retained.refl (platform : Platform) : Retained platform platform :=
  ⟨fun _ member => member, fun _ member => member, fun _ member => member⟩

theorem Retained.trans {between : Platform} (first : Retained platform between) (second : Retained between after) :
    Retained platform after :=
  ⟨fun _ member => second.products (first.products member), fun _ member => second.variants (first.variants member),
    fun _ member => second.brands (first.brands member)⟩

theorem Retained.created (created : Created runtime tenant platform row after) : Retained platform after := by
  obtain ⟨brandId, products⟩ := created.product
  refine ⟨by simp [products], by simp [created.variant], ?_⟩
  rcases created.brand with brands | ⟨name, _, _, brands⟩ <;> simp [brands]

theorem Sourced.mono {more : List ImportRow} (sourced : Sourced runtime tenant platform rows after)
    (subset : rows ⊆ more) :
    Sourced runtime tenant platform more after where
  product product member :=
    (sourced.product product member).imp_right fun ⟨row, there, same⟩ => ⟨row, subset there, same⟩
  variant variant member :=
    (sourced.variant variant member).imp_right fun ⟨row, there, same⟩ => ⟨row, subset there, same⟩
  brand brand member :=
    (sourced.brand brand member).imp_right fun ⟨row, there, named⟩ => ⟨row, subset there, named⟩

theorem Sourced.created {between : Platform} (sourced : Sourced runtime tenant platform rows between)
    (created : Created runtime tenant between row after) : Sourced runtime tenant platform (rows ++ [row]) after := by
  obtain ⟨brandId, products⟩ := created.product
  have before : Sourced runtime tenant platform (rows ++ [row]) between :=
    sourced.mono fun _ member => List.mem_append_left _ member
  constructor
  · intro product member
    rw [products, List.mem_append, List.mem_singleton] at member
    rcases member with old | rfl
    · exact before.product product old
    · exact .inr ⟨row, by simp, rfl⟩
  · intro variant member
    rw [created.variant, List.mem_append, List.mem_singleton] at member
    rcases member with old | rfl
    · exact before.variant variant old
    · exact .inr ⟨row, by simp, rfl⟩
  · intro brand member
    rcases created.brand with brands | ⟨name, named, _, brands⟩
    · exact before.brand brand (brands ▸ member)
    · rw [brands, List.mem_append, List.mem_singleton] at member
      rcases member with old | rfl
      · exact before.brand brand old
      · exact .inr ⟨row, by simp, name, named, rfl, rfl, rfl⟩

theorem Retained.step {current : ImportRun} :
    Retained current.platform (importStep runtime tenant current row).platform := by
  by_cases free : Free runtime tenant current.platform row
  · obtain ⟨after, created, stepped⟩ := importStep_created free
    rw [stepped]
    exact .created created
  · rw [(importStep_refused free).1]
    exact .refl _

theorem Retained.run (current : ImportRun) (rows : List ImportRow) :
    Retained current.platform (run (importStep runtime tenant) current rows).platform := by
  induction rows generalizing current with
  | nil => exact .refl _
  | cons row rest ih => exact Retained.step.trans (ih (importStep runtime tenant current row))

theorem import_append : importProducts runtime tenant (earlier ++ row :: later) platform =
    run (importStep runtime tenant)
      (importStep runtime tenant (importProducts runtime tenant earlier platform) row) later := by
  rw [importProducts, run_append, run_cons]
  rfl

theorem sourced_import :
    Sourced runtime tenant platform rows (importProducts runtime tenant rows platform).platform := by
  induction rows using List.reverseRecOn with
  | nil => exact ⟨fun _ member => .inl member, fun _ member => .inl member, fun _ member => .inl member⟩
  | append_singleton rows row ih =>
      rw [import_append, run_nil]
      by_cases free : Free runtime tenant (importProducts runtime tenant rows platform).platform row
      · obtain ⟨after, created, stepped⟩ := importStep_created free
        rw [stepped]
        exact ih.created created
      · rw [(importStep_refused free).1]
        exact ih.mono fun _ member => List.mem_append_left _ member

/-- When its turn comes nothing is in the way of an unrivalled row. -/
theorem RowUnrivalled.free (unrivalled : RowUnrivalled runtime tenant platform earlier row)
    (storable : runtime.storable row = true) :
    Free runtime tenant (importProducts runtime tenant earlier platform).platform row := by
  have sourced : Sourced runtime tenant platform earlier (importProducts runtime tenant earlier platform).platform :=
    sourced_import
  have retained : Retained platform (importProducts runtime tenant earlier platform).platform :=
    Retained.run (.start platform) earlier
  constructor
  · intro given
    obtain ⟨product, member, mine, same⟩ := given
    rcases sourced.product product member with old | ⟨other, there, slug⟩
    · exact unrivalled.slug ⟨product, old, mine, same⟩
    · exact unrivalled.slugs other there (slug.symm.trans same)
  · exact storable
  · intro name named
    rcases unrivalled.brand name named with ⟨brand, member, known⟩ | ⟨unused, unshared⟩
    · exact .inl ⟨brand, retained.brands member, known⟩
    · refine or_iff_not_imp_right.mpr fun taken => ?_
      obtain ⟨brand, member, mine, same⟩ := not_not.mp taken
      rcases sourced.brand brand member with old | ⟨other, there, rival, rivalNamed, _, brandName, slug⟩
      · exact absurd ⟨brand, old, mine, same⟩ unused
      · obtain rfl := unshared other there rival rivalNamed (slug.symm.trans same)
        exact ⟨brand, member, mine, brandName⟩
  · intro given
    obtain ⟨variant, member, mine, given, same⟩ := given
    rcases sourced.variant variant member with old | ⟨other, there, sku⟩
    · exact unrivalled.sku ⟨variant, old, mine, given, same⟩
    · exact unrivalled.skus other there (same ▸ given) (sku.symm.trans same)

/-- A row that nothing before it rivals becomes a draft product with its variant. -/
theorem unrivalled_row_imported (unrivalled : RowUnrivalled runtime tenant platform earlier row)
    (storable : runtime.storable row = true) :
    ∃ product ∈ (importProducts runtime tenant (earlier ++ row :: later) platform).platform.products.rows,
      product ∉ platform.products.rows ∧ product.tenantId = tenant ∧ product.title = row.title ∧
        product.description = row.description ∧ product.status = .draft ∧
        ∃ variant ∈ (importProducts runtime tenant (earlier ++ row :: later) platform).platform.variants.rows,
          variant.productId = product.id ∧ variant.sku = row.sku ∧ variant.priceCents = row.priceCents := by
  obtain ⟨after, created, stepped⟩ := importStep_created (unrivalled.free storable)
  have retained : Retained after (importProducts runtime tenant (earlier ++ row :: later) platform).platform := by
    rw [import_append, stepped]
    exact Retained.run ⟨after, _⟩ later
  obtain ⟨brandId, products⟩ := created.product
  have product := retained.products (products ▸ List.mem_append_right _ (List.mem_singleton_self _))
  have variant := retained.variants (created.variant ▸ List.mem_append_right _ (List.mem_singleton_self _))
  refine ⟨_, product, fun old => ?_, rfl, rfl, rfl, rfl, _, variant, rfl, rfl, rfl⟩
  exact unrivalled.slug ⟨_, old, rfl, rfl⟩

end Sources

def importRuntime : Import.Runtime where
  toLowerCase := fun text => String.ofList (text.toList.map Char.toLower)
  keys := .counting
  storable := fun _ => true
  message := fun _ => "Unique constraint failed"

def titled (title : String) (brand : Option String) : ImportRow where
  title := title
  sku := none
  priceCents := 450
  description := none
  brand := brand

/-- The second brand has the slug of the first. -/
example : (importProducts importRuntime 1 [titled "Tea" (some "Acme"), titled "Mug" (some "ACME")] emptyShop).summary =
    ⟨1, 0, ["Mug: Unique constraint failed"]⟩ := by decide

/-- `Tea!` has the slug of `Tea` and is skipped. -/
theorem same_slug_skipped :
    ¬ ∀ (runtime : Import.Runtime) tenant platform earlier row later,
      (∀ product ∈ platform.products.rows, product.title ≠ row.title) →
      (∀ other ∈ earlier ++ later, other.title ≠ row.title) →
      ¬ SkuTaken tenant platform row.sku → (∀ other ∈ earlier ++ later, row.sku.isSome → other.sku ≠ row.sku) →
      runtime.storable row = true →
      ∃ product ∈ (importProducts runtime tenant (earlier ++ row :: later) platform).platform.products.rows,
        product.tenantId = tenant ∧ product.title = row.title := by
  intro always
  obtain ⟨product, member, _, same⟩ := always importRuntime 1 emptyShop [titled "Tea" none] (titled "Tea!" none) []
    (by simp [emptyShop, Table.empty]) (by simp [titled]) (by simp [SkuTaken, emptyShop, Table.empty])
    (by simp [titled]) rfl
  have titles : (importProducts importRuntime 1 [titled "Tea" none, titled "Tea!" none]
      emptyShop).platform.products.rows.map Catalog.Product.title = ["Tea"] := by decide
  have listed : "Tea!" ∈ (importProducts importRuntime 1 [titled "Tea" none, titled "Tea!" none]
      emptyShop).platform.products.rows.map Catalog.Product.title := List.mem_map.mpr ⟨product, member, same⟩
  rw [titles] at listed
  simp at listed

/-- The mug has the brand of the tea before it, and the cup after it fails. -/
theorem unrivalled_row_imported_same_brand :
    ∃ product ∈ (importProducts importRuntime 1 ([titled "Tea" (some "Acme")] ++ titled "Mug" (some "Acme") ::
        [titled "Cup" (some "ACME")]) emptyShop).platform.products.rows,
      product ∉ emptyShop.products.rows ∧ product.tenantId = 1 ∧ product.title = "Mug" ∧
        product.description = none ∧ product.status = .draft ∧
        ∃ variant ∈ (importProducts importRuntime 1 ([titled "Tea" (some "Acme")] ++ titled "Mug" (some "Acme") ::
            [titled "Cup" (some "ACME")]) emptyShop).platform.variants.rows,
          variant.productId = product.id ∧ variant.sku = none ∧ variant.priceCents = 450 := by
  have unrivalled : RowUnrivalled importRuntime 1 emptyShop [titled "Tea" (some "Acme")]
      (titled "Mug" (some "Acme")) := by
    refine ⟨by simp [SlugTaken, emptyShop, Table.empty], ?_, by simp [SkuTaken, emptyShop, Table.empty],
      by simp [titled], ?_⟩
    · decide
    · intro name named
      refine .inr ⟨by simp [BrandSlugTaken, emptyShop, Table.empty], fun other there rival rivalNamed _ => ?_⟩
      rw [List.mem_singleton] at there
      subst there
      exact Option.some.inj (rivalNamed.symm.trans named)
  exact unrivalled_row_imported unrivalled rfl

end Aicos.Properties
