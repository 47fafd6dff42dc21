import Aicos.Catalog.Categories

namespace Aicos.Search

open Aicos.Catalog Aicos.Data
open Aicos.Commerce (TenantId VariantId Instant ProductStatus)

/-! The documents of the products index, and what the catalogue gives for them. -/

structure ProductDoc where
  id : ProductId
  tenantId : TenantId
  title : String
  slug : String
  description : String
  status : ProductStatus
  type : ProductType
  brandId : Option BrandId
  brandName : Option String
  categoryIds : List CategoryId
  skus : List String
  priceMinCents : Option Int
  createdAt : Instant
  publishedAt : Option Instant
deriving DecidableEq

structure ProductForIndex where
  product : Product
  createdAt : Instant
  brand : Option Brand
  categories : List CategoryId
  variants : List Variant

/-- What no request changes of a product once it is there: the column `createdAt`
and the rows of `ProductCategory`. -/
structure Fixed where
  createdAt : ProductId → Instant
  categories : ProductId → List CategoryId

def toDoc (p : ProductForIndex) : ProductDoc where
  id := p.product.id
  tenantId := p.product.tenantId
  title := p.product.title
  slug := p.product.slug
  description := p.product.description.getD ""
  status := p.product.status
  type := p.product.type
  brandId := p.product.brandId
  brandName := p.brand.map Brand.name
  categoryIds := p.categories
  skus := (p.variants.filterMap Variant.sku).filter fun sku => sku ≠ ""
  priceMinCents := (p.variants.map Variant.priceCents).min?
  createdAt := p.createdAt
  publishedAt := p.product.publishedAt

variable (fixed : Fixed) (tenant : TenantId) (platform : Platform)

def liveVariants (id : ProductId) : List Variant :=
  platform.variants.rows.filter fun variant =>
    variant.tenantId = tenant ∧ variant.productId = id ∧ variant.deletedAt = none

/-- `INCLUDE`, as the tenant sees it. -/
def included (product : Product) : ProductForIndex where
  product := product
  createdAt := fixed.createdAt product.id
  brand := product.brandId.bind (platform.brands.visible tenant)
  categories := fixed.categories product.id
  variants := liveVariants tenant platform product.id

/-- The document of a product that is not removed, as a sync of the tenant reads it. -/
def readDoc (id : ProductId) : Option ProductDoc :=
  ((platform.products.visible tenant id).filter fun product => product.deletedAt = none).map fun product =>
    toDoc (included fixed tenant platform product)

/-- The document of a product, for its own tenant. -/
def docOf (id : ProductId) : Option ProductDoc :=
  (platform.products.ownerOf id).bind fun tenant => readDoc fixed tenant platform id

variable {fixed tenant platform} {after : Platform} {id : ProductId}

theorem readDoc_of_owner (owner : platform.products.ownerOf id = some tenant) :
    readDoc fixed tenant platform id = docOf fixed platform id := by
  rw [docOf, owner, Option.bind_some]

theorem docOf_removed {row : Product} (found : platform.products.find? id = some row)
    (removed : row.deletedAt ≠ none) :
    docOf fixed platform id = none := by
  simp [docOf, readDoc, Table.ownerOf, Table.visible, found, Option.filter, removed]

/-- A document is made of the product's row, its live variants and the name of its brand. -/
theorem docOf_congr (product : after.products.find? id = platform.products.find? id)
    (variants : ∀ tenant, liveVariants tenant after id = liveVariants tenant platform id)
    (brand : ∀ row ∈ platform.products.find? id, row.deletedAt = none → ∀ name ∈ row.brandId,
      (after.brands.visible row.tenantId name).map Brand.name = (platform.brands.visible row.tenantId name).map Brand.name) :
    docOf fixed after id = docOf fixed platform id := by
  have owner : after.products.ownerOf id = platform.products.ownerOf id := congrArg (Option.map TenantRow.tenantId) product
  rw [docOf, docOf, owner]
  refine Option.bind_congr fun tenant owned => ?_
  obtain ⟨row, found, rfl⟩ := Table.ownerOf_eq_some.mp owned
  have key : row.id = id := (Table.find?_some found).2
  rw [readDoc, readDoc, Table.visible, Table.visible, product, found]
  by_cases live : row.deletedAt = none
  · have name : (row.brandId.bind (after.brands.visible row.tenantId)).map Brand.name =
        (row.brandId.bind (platform.brands.visible row.tenantId)).map Brand.name := by
      cases named : row.brandId with
      | none => rfl
      | some other => exact brand row found live other named
    have same : toDoc (included fixed row.tenantId after row) = toDoc (included fixed row.tenantId platform row) := by
      have shelf : liveVariants row.tenantId after row.id = liveVariants row.tenantId platform row.id := by
        rw [key, variants]
      rw [toDoc, toDoc, included, included]
      simp only [shelf, name]
    simpa [Option.filter, live, TenantRow.tenantId] using same
  · simp [Option.filter, live]

end Aicos.Search
