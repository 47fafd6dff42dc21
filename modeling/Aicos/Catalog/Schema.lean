import Aicos.Data.Table
import Aicos.Inventory.Statements

namespace Aicos.Catalog

open Aicos.Commerce Aicos.Data

/-! The catalog, the stock and what they refer to, for all tenants together.  Numbers are unbounded
here: a request with one that its column does not hold fails, and changes no row. -/

abbrev ProductId := Nat
abbrev BrandId := Nat
abbrev CategoryId := Nat
abbrev AddressId := Nat
abbrev MediaId := Nat
abbrev ImageId := Nat

inductive ProductType where
  | physical | digital | service | giftCard
deriving DecidableEq

inductive WeightUnit where
  | g | kg | oz | lb
deriving DecidableEq

structure Product where
  id : ProductId
  tenantId : TenantId
  storeId : Option StoreId
  brandId : Option BrandId
  title : String
  slug : String
  description : Option String
  type : ProductType
  status : ProductStatus
  seoTitle : Option String
  seoDescription : Option String
  primaryImageId : Option ImageId
  searchKeywords : Option String
  publishedAt : Option Instant
  deletedAt : Option Instant
deriving DecidableEq

structure Variant where
  id : VariantId
  tenantId : TenantId
  productId : ProductId
  sku : Option String
  barcode : Option String
  title : String
  priceCents : Int
  compareAtCents : Option Int
  costCents : Option Int
  currency : String
  weightUnit : WeightUnit
  inventoryPolicy : InventoryPolicy
  taxable : Bool
  position : Nat
  deletedAt : Option Instant
deriving DecidableEq

structure ProductImage where
  id : ImageId
  tenantId : TenantId
  productId : ProductId
  mediaId : MediaId
  position : Nat
  altText : Option String
  isPrimary : Bool
deriving DecidableEq

structure Category where
  id : CategoryId
  tenantId : TenantId
  parentId : Option CategoryId
  name : String
  slug : String
  description : Option String
  imageUrl : Option String
  position : Nat
  deletedAt : Option Instant
deriving DecidableEq

structure Brand where
  id : BrandId
  tenantId : TenantId
  name : String
  slug : String
  logoUrl : Option String
deriving DecidableEq

structure Location where
  id : LocationId
  tenantId : TenantId
  name : String
  isDefault : Bool
  addressId : Option AddressId
deriving DecidableEq

/-- A row of which only the key is used. -/
structure Stub where
  id : Nat
  tenantId : TenantId
deriving DecidableEq

/-- A row of one tenant among those of all tenants. -/
structure Tenanted (α : Type) where
  tenantId : TenantId
  row : α
deriving DecidableEq

instance : TenantRow Product := ⟨Product.id, Product.tenantId⟩
instance : TenantRow Variant := ⟨Variant.id, Variant.tenantId⟩
instance : TenantRow ProductImage := ⟨ProductImage.id, ProductImage.tenantId⟩
instance : TenantRow Category := ⟨Category.id, Category.tenantId⟩
instance : TenantRow Brand := ⟨Brand.id, Brand.tenantId⟩
instance : TenantRow Location := ⟨Location.id, Location.tenantId⟩
instance : TenantRow Stub := ⟨Stub.id, Stub.tenantId⟩
instance : TenantRow (Tenanted InventoryItem) := ⟨fun item => item.row.id, Tenanted.tenantId⟩

structure Platform where
  stores : Table Stub
  addresses : Table Stub
  media : Table Stub
  brands : Table Brand
  categories : Table Category
  products : Table Product
  variants : Table Variant
  images : Table ProductImage
  locations : Table Location
  items : Table (Tenanted InventoryItem)
  movements : List (Tenanted StockMovement)

def emptyShop : Platform where
  stores := .empty
  addresses := .empty
  media := .empty
  brands := .empty
  categories := .empty
  products := .empty
  variants := .empty
  images := .empty
  locations := .empty
  items := .empty
  movements := []

/-- A client-supplied id in a request body. -/
inductive IdField where
  | undefined
  | null
  | empty
  | id (value : Nat)
deriving DecidableEq

namespace IdField

/-- `field ?? null`; no row has the empty string as its key. -/
def column : IdField → Option Nat
  | .id value => some value
  | _ => none

/-- `data.relation = field ? connect : disconnect`, where the field is there at all. -/
def relation : IdField → Option (Option Nat)
  | .undefined => none
  | field => some field.column

end IdField

inductive CatalogError where
  | http (error : HttpError)
  | conflict (message : String)
  | db (error : DbError)
  | stock (statement : Inventory.StockWrite)
deriving DecidableEq

abbrev CatalogTx (α : Type) := Except CatalogError α

/-- `mapUniqueError`: a P2002 becomes a `ConflictException`. -/
def mapUnique {α : Type} (message : String) : Except DbError α → CatalogTx α
  | .ok value => .ok value
  | .error .unique => .error (.conflict message)
  | .error error => .error (.db error)

def fromDb {α : Type} : Except DbError α → CatalogTx α
  | .ok value => .ok value
  | .error error => .error (.db error)

/-- A `findFirst` whose miss is an exception. -/
def orThrow {α : Type} (error : HttpError) : Option α → CatalogTx α
  | some value => .ok value
  | none => .error (.http error)

section Results

variable {α : Type} {value : α} {message : String} {error : HttpError}

theorem map_eq_ok {ε β : Type} {result : Except ε α} {next : α → β} {after : β} :
    result.map next = .ok after ↔ ∃ value, result = .ok value ∧ next value = after := by
  cases result <;> simp [Except.map]

theorem isOk_iff {ε : Type} {result : Except ε α} : result.isOk = true ↔ ∃ value, result = .ok value := by
  cases result <;> simp [Except.isOk, Except.toBool]

@[simp] theorem mapUnique_ok {result : Except DbError α} : mapUnique message result = .ok value ↔ result = .ok value := by
  rcases result with (_ | _ | _) | _ <;> simp [mapUnique]

@[simp] theorem fromDb_ok {result : Except DbError α} : fromDb result = .ok value ↔ result = .ok value := by
  cases result <;> simp [fromDb]

@[simp] theorem orThrow_ok {found : Option α} : orThrow error found = .ok value ↔ found = some value := by
  cases found <;> simp [orThrow]

end Results

end Aicos.Catalog
