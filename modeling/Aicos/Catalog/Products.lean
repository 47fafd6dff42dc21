import Aicos.Catalog.Naming
import Aicos.Catalog.Schema

namespace Aicos.Catalog

open Aicos.Commerce Aicos.Data

/-! `ProductsService`: products, their variants and their images. -/

structure CreateProductDto where
  title : String
  slug : Option String
  description : Option String
  type : Option ProductType
  status : Option ProductStatus
  storeId : IdField
  brandId : IdField
  seoTitle : Option String
  seoDescription : Option String
  searchKeywords : Option String
deriving DecidableEq

structure UpdateProductDto where
  title : Option String
  slug : Option String
  description : Option String
  type : Option ProductType
  status : Option ProductStatus
  brandId : IdField
  storeId : IdField
  seoTitle : Option String
  seoDescription : Option String
  searchKeywords : Option String
deriving DecidableEq

structure CreateVariantDto where
  title : String
  sku : Option String
  barcode : Option String
  priceCents : Option Nat
  compareAtCents : Option Nat
  costCents : Option Nat
  currency : Option String
  weightUnit : Option WeightUnit
  inventoryPolicy : Option InventoryPolicy
  taxable : Option Bool
  position : Option Nat
deriving DecidableEq

structure UpdateVariantDto where
  title : Option String
  sku : Option String
  barcode : Option String
  priceCents : Option Nat
  compareAtCents : Option Nat
  costCents : Option Nat
  currency : Option String
  weightUnit : Option WeightUnit
  inventoryPolicy : Option InventoryPolicy
  taxable : Option Bool
  position : Option Nat
deriving DecidableEq

structure CreateProductImageDto where
  mediaAssetId : MediaId
  position : Option Nat
  altText : Option String
  isPrimary : Option Bool
deriving DecidableEq

/-- `@@unique([tenantId, slug])`. -/
def productClash (row other : Product) : Bool :=
  row.tenantId = other.tenantId ∧ row.slug = other.slug

/-- `@@unique([tenantId, sku])`, in which NULL equals nothing. -/
def variantClash (row other : Variant) : Bool :=
  row.tenantId = other.tenantId ∧ row.sku.isSome ∧ row.sku = other.sku

namespace Platform

variable (platform : Platform)

def productForeign (row : Product) : Bool :=
  platform.stores.admits row.storeId ∧ platform.brands.admits row.brandId ∧
    platform.images.admits row.primaryImageId

def insertProduct (dangling : Bool) (row : Product) : Except DbError Platform :=
  (platform.products.tryInsert productClash (fun row => ¬ dangling ∧ platform.productForeign row) row).map
    fun products => { platform with products }

def updateProduct (tenant : TenantId) (id : ProductId) (change : Change Product) : Except DbError Platform :=
  (platform.products.tryUpdate productClash platform.productForeign tenant id change).map
    fun products => { platform with products }

def insertVariant (row : Variant) : Except DbError Platform :=
  (platform.variants.tryInsert variantClash (fun row => platform.products.has row.productId) row).map
    fun variants => { platform with variants }

def updateVariant (tenant : TenantId) (id : VariantId) (change : Change Variant) : Except DbError Platform :=
  (platform.variants.tryUpdate variantClash (fun row => platform.products.has row.productId) tenant id change).map
    fun variants => { platform with variants }

def insertImage (row : ProductImage) : Except DbError Platform :=
  (platform.images.tryInsert (fun _ _ => false)
      (fun row => platform.products.has row.productId ∧ platform.media.has row.mediaId) row).map
    fun images => { platform with images }

variable {platform} {after : Platform} {tenant : TenantId}

theorem insertProduct_ok {dangling : Bool} {row : Product} (inserted : platform.insertProduct dangling row = .ok after) :
    platform.products.find? row.id = none ∧ after = { platform with products := platform.products.insert row } := by
  obtain ⟨products, ran, rfl⟩ := map_eq_ok.mp inserted
  obtain ⟨fresh, _, rfl⟩ := Table.tryInsert_ok ran
  exact ⟨fresh, rfl⟩

theorem updateProduct_ok {id : ProductId} {change : Change Product}
    (updated : platform.updateProduct tenant id change = .ok after) :
    ∃ row, platform.products.visible tenant id = some row ∧
      after = { platform with products := platform.products.update id change } := by
  obtain ⟨products, ran, rfl⟩ := map_eq_ok.mp updated
  obtain ⟨row, shown, _, rfl⟩ := Table.tryUpdate_ok ran
  exact ⟨row, shown, rfl⟩

theorem insertVariant_ok {row : Variant} (inserted : platform.insertVariant row = .ok after) :
    platform.variants.find? row.id = none ∧ after = { platform with variants := platform.variants.insert row } := by
  obtain ⟨variants, ran, rfl⟩ := map_eq_ok.mp inserted
  obtain ⟨fresh, _, rfl⟩ := Table.tryInsert_ok ran
  exact ⟨fresh, rfl⟩

theorem updateVariant_ok {id : VariantId} {change : Change Variant}
    (updated : platform.updateVariant tenant id change = .ok after) :
    after = { platform with variants := platform.variants.update id change } := by
  obtain ⟨variants, ran, rfl⟩ := map_eq_ok.mp updated
  obtain ⟨row, _, _, rfl⟩ := Table.tryUpdate_ok ran
  rfl

theorem insertImage_ok_iff {row : ProductImage} : platform.insertImage row = .ok after ↔
    platform.images.find? row.id = none ∧ platform.products.has row.productId = true ∧
      platform.media.has row.mediaId = true ∧ after = { platform with images := platform.images.insert row } := by
  simp only [insertImage, map_eq_ok, Table.tryInsert_ok_iff, decide_eq_true_eq]
  constructor
  · intro inserted
    obtain ⟨images, ⟨fresh, _, ⟨product, media⟩, same⟩, result⟩ := inserted
    subst same
    exact ⟨fresh, product, media, result.symm⟩
  · intro met
    obtain ⟨fresh, product, media, result⟩ := met
    exact ⟨_, ⟨fresh, fun _ _ => trivial, ⟨product, media⟩, rfl⟩, result.symm⟩

theorem insertImage_ok {row : ProductImage} (inserted : platform.insertImage row = .ok after) :
    after = { platform with images := platform.images.insert row } :=
  (insertImage_ok_iff.mp inserted).2.2.2

end Platform

/-- `connect: { id }` looks the row up among those the tenant sees. -/
def connect {α : Type} [TenantRow α] (table : Table α) (tenant : TenantId) : IdField → Except DbError Unit
  | .id value => if (table.visible tenant value).isSome then .ok () else .error .recordNotFound
  | _ => .ok ()

theorem connect_ok {α : Type} [TenantRow α] {table : Table α} {tenant : TenantId} {field : IdField}
    (connected : connect table tenant field = .ok ()) : table.Owns tenant field.column := by
  cases field with
  | id value =>
      intro id set
      cases set
      simp only [connect] at connected
      split at connected
      · rename_i shown
        obtain ⟨row, shown⟩ := Option.isSome_iff_exists.mp shown
        exact Table.ownerOf_eq_some.mpr ⟨row, Table.visible_eq_some.mp shown⟩
      · cases connected
  | _ => simp [Table.Owns, IdField.column]

def productOf (id : ProductId) (tenant : TenantId) (slug : String) (dto : CreateProductDto) : Product where
  id := id
  tenantId := tenant
  storeId := dto.storeId.column
  brandId := dto.brandId.column
  title := dto.title
  slug := slug
  description := dto.description
  type := dto.type.getD .physical
  status := dto.status.getD .draft
  seoTitle := dto.seoTitle
  seoDescription := dto.seoDescription
  primaryImageId := none
  searchKeywords := dto.searchKeywords
  publishedAt := none
  deletedAt := none

def productChange (dto : UpdateProductDto) : Change Product where
  apply := fun row => { row with
    title := dto.title.getD row.title
    slug := dto.slug.getD row.slug
    description := dto.description <|> row.description
    type := dto.type.getD row.type
    status := dto.status.getD row.status
    seoTitle := dto.seoTitle <|> row.seoTitle
    seoDescription := dto.seoDescription <|> row.seoDescription
    searchKeywords := dto.searchKeywords <|> row.searchKeywords
    brandId := dto.brandId.relation.getD row.brandId
    storeId := dto.storeId.relation.getD row.storeId }
  id := fun _ => rfl
  tenantId := fun _ => rfl

def removeChange (now : Instant) : Change Product where
  apply := fun row => { row with deletedAt := some now }
  id := fun _ => rfl
  tenantId := fun _ => rfl

def publishChange (now : Instant) : Change Product where
  apply := fun row => { row with status := .active, publishedAt := some now }
  id := fun _ => rfl
  tenantId := fun _ => rfl

def primaryImageChange (image : ImageId) : Change Product where
  apply := fun row => { row with primaryImageId := some image }
  id := fun _ => rfl
  tenantId := fun _ => rfl

def variantOf (id : VariantId) (tenant : TenantId) (productId : ProductId) (sku : String)
    (dto : CreateVariantDto) : Variant where
  id := id
  tenantId := tenant
  productId := productId
  sku := some sku
  barcode := dto.barcode
  title := dto.title
  priceCents := (dto.priceCents.getD 0 : Nat)
  compareAtCents := dto.compareAtCents.map Int.ofNat
  costCents := dto.costCents.map Int.ofNat
  currency := dto.currency.getD "USD"
  weightUnit := dto.weightUnit.getD .g
  inventoryPolicy := dto.inventoryPolicy.getD .deny
  taxable := dto.taxable.getD true
  position := dto.position.getD 0
  deletedAt := none

def variantChange (dto : UpdateVariantDto) : Change Variant where
  apply := fun row => { row with
    title := dto.title.getD row.title
    sku := dto.sku <|> row.sku
    barcode := dto.barcode <|> row.barcode
    priceCents := (dto.priceCents.map Int.ofNat).getD row.priceCents
    compareAtCents := dto.compareAtCents.map Int.ofNat <|> row.compareAtCents
    costCents := dto.costCents.map Int.ofNat <|> row.costCents
    currency := dto.currency.getD row.currency
    weightUnit := dto.weightUnit.getD row.weightUnit
    inventoryPolicy := dto.inventoryPolicy.getD row.inventoryPolicy
    taxable := dto.taxable.getD row.taxable
    position := dto.position.getD row.position }
  id := fun _ => rfl
  tenantId := fun _ => rfl

def removeVariantChange (now : Instant) : Change Variant where
  apply := fun row => { row with deletedAt := some now }
  id := fun _ => rfl
  tenantId := fun _ => rfl

def imageOf (id : ImageId) (tenant : TenantId) (productId : ProductId) (dto : CreateProductImageDto) :
    ProductImage where
  id := id
  tenantId := tenant
  productId := productId
  mediaId := dto.mediaAssetId
  position := dto.position.getD 0
  altText := dto.altText
  isPrimary := dto.isPrimary.getD false

def productConflict (slug : String) : String :=
  s!"Product with slug \"{slug}\" already exists"

def variantConflict (sku : String) : String :=
  s!"Variant with sku \"{sku}\" already exists"

section Service

variable (nfkd : String → String) (tenant : TenantId) (platform : Platform)

def assertProductExists (id : ProductId) : CatalogTx Product :=
  orThrow (.notFound "Product not found")
    ((platform.products.visible tenant id).filter fun product => product.deletedAt = none)

def assertVariantExists (id : VariantId) : CatalogTx Variant :=
  orThrow (.notFound "Variant not found")
    ((platform.variants.visible tenant id).filter fun variant => variant.deletedAt = none)

/-- `create`; `id` is the cuid of the row, here and in the other inserts. -/
def createProduct (id : ProductId) (dto : CreateProductDto) : CatalogTx Platform :=
  let slug := dto.slug.getD (slugify nfkd dto.title)
  mapUnique (productConflict slug)
    (platform.insertProduct (dto.storeId = .empty ∨ dto.brandId = .empty) (productOf id tenant slug dto))

def updateProduct (id : ProductId) (dto : UpdateProductDto) : CatalogTx Platform := do
  let _ ← assertProductExists tenant platform id
  mapUnique (productConflict (dto.slug.getD "")) do
    connect platform.brands tenant dto.brandId
    connect platform.stores tenant dto.storeId
    platform.updateProduct tenant id (productChange dto)

def removeProduct (id : ProductId) (now : Instant) : CatalogTx Platform := do
  let _ ← assertProductExists tenant platform id
  fromDb (platform.updateProduct tenant id (removeChange now))

def publishProduct (id : ProductId) (now : Instant) : CatalogTx Platform := do
  let _ ← assertProductExists tenant platform id
  fromDb (platform.updateProduct tenant id (publishChange now))

def createVariant (id : VariantId) (productId : ProductId) (dto : CreateVariantDto) : CatalogTx Platform := do
  let product ← assertProductExists tenant platform productId
  let sku := dto.sku.getD (skuFromTitle nfkd product.title [dto.title])
  mapUnique (variantConflict sku) (platform.insertVariant (variantOf id tenant productId sku dto))

def updateVariant (id : VariantId) (dto : UpdateVariantDto) : CatalogTx Platform := do
  let _ ← assertVariantExists tenant platform id
  mapUnique (variantConflict (dto.sku.getD "")) (platform.updateVariant tenant id (variantChange dto))

def removeVariant (id : VariantId) (now : Instant) : CatalogTx Platform := do
  let _ ← assertVariantExists tenant platform id
  fromDb (platform.updateVariant tenant id (removeVariantChange now))

def addImage (id : ImageId) (productId : ProductId) (dto : CreateProductImageDto) : CatalogTx Platform := do
  let _ ← assertProductExists tenant platform productId
  let _ ← orThrow (.notFound "Media asset not found") (platform.media.visible tenant dto.mediaAssetId)
  let added ← fromDb (platform.insertImage (imageOf id tenant productId dto))
  if dto.isPrimary.getD false then fromDb (added.updateProduct tenant productId (primaryImageChange id))
  else pure added

end Service

theorem assertProductExists_ok {tenant : TenantId} {platform : Platform} {id : ProductId} {product : Product} :
    assertProductExists tenant platform id = .ok product ↔
      platform.products.visible tenant id = some product ∧ product.deletedAt = none := by
  rw [assertProductExists, orThrow_ok, Option.filter_eq_some_iff, decide_eq_true_eq]

end Aicos.Catalog
