import Aicos.Catalog.Categories
import Aicos.Transition.Run

namespace Aicos.Import

open Aicos.Catalog Aicos.Data Aicos.Transition
open Aicos.Commerce (TenantId)

/-! `ImportService`.  Every row is a transaction of its own, and what one leaves
decides how the rows after it fare. -/

structure ImportRow where
  title : String
  sku : Option String
  priceCents : Int
  description : Option String
  brand : Option String
deriving DecidableEq

structure ImportSummary where
  created : Nat
  skipped : Nat
  errors : List String
deriving DecidableEq

inductive ImportError where
  | db (error : DbError)
  | value
deriving DecidableEq

/-- What the runtime and the database give: `toLowerCase`, cuids, which values the
columns and the indexes take, and the texts of the errors. -/
structure Runtime where
  toLowerCase : String → String
  keys : KeySource
  storable : ImportRow → Bool
  message : ImportError → String

/-- `slugify` of `csv.util`. -/
def slugify (toLowerCase : String → String) (text : String) : String :=
  slugWithin 80 "item" toLowerCase text

/-- Statements inside a transaction: what they wrote stays when a later one throws. -/
def ImportTx (α : Type) : Type := Platform → Except ImportError α × Platform

instance : Monad ImportTx where
  pure value := fun platform => (.ok value, platform)
  bind tx next := fun platform =>
    match tx platform with
    | (.ok value, after) => next value after
    | (.error error, after) => (.error error, after)

def query : ImportTx Platform := fun platform => (.ok platform, platform)

def throwing {α : Type} (error : ImportError) : ImportTx α := fun platform => (.error error, platform)

def execute (statement : Platform → Except DbError Platform) : ImportTx Unit := fun platform =>
  match statement platform with
  | .ok after => (.ok (), after)
  | .error error => (.error (.db error), platform)

/-- `forTenant` rolls the statements back when one throws. -/
def forTenant {α : Type} (tx : ImportTx α) (platform : Platform) : Except ImportError α × Platform :=
  match tx platform with
  | (.ok value, after) => (.ok value, after)
  | (.error error, _) => (.error error, platform)

def findProductBySlug (tenant : TenantId) (slug : String) (platform : Platform) : Option Product :=
  platform.products.rows.find? fun product => product.tenantId = tenant ∧ product.slug = slug

def findBrandByName (tenant : TenantId) (name : String) (platform : Platform) : Option Brand :=
  platform.brands.rows.find? fun brand => brand.tenantId = tenant ∧ brand.name = name

/-- An empty brand is none. -/
def ImportRow.brandName (row : ImportRow) : Option String :=
  row.brand.filter fun name => name ≠ ""

section Rows

variable (runtime : Runtime) (tenant : TenantId)

def importedBrand (name : String) (platform : Platform) : Brand where
  id := runtime.keys.next (platform.brands.rows.map Brand.id)
  tenantId := tenant
  name := name
  slug := slugify runtime.toLowerCase name
  logoUrl := none

def importedProduct (row : ImportRow) (brandId : Option BrandId) (platform : Platform) : Product where
  id := runtime.keys.next (platform.products.rows.map Product.id)
  tenantId := tenant
  storeId := none
  brandId := brandId
  title := row.title
  slug := slugify runtime.toLowerCase row.title
  description := row.description
  type := .physical
  status := .draft
  seoTitle := none
  seoDescription := none
  primaryImageId := none
  searchKeywords := none
  publishedAt := none
  deletedAt := none

def importedVariant (row : ImportRow) (productId : ProductId) (platform : Platform) : Variant where
  id := runtime.keys.next (platform.variants.rows.map Variant.id)
  tenantId := tenant
  productId := productId
  sku := row.sku
  barcode := none
  title := "Default"
  priceCents := row.priceCents
  compareAtCents := none
  costCents := none
  currency := "USD"
  weightUnit := .g
  inventoryPolicy := .deny
  taxable := true
  position := 0
  deletedAt := none

/-- The brand of a row, made where the tenant has none of its name. -/
def brandFor (name : String) : ImportTx BrandId := do
  let platform ← query
  match findBrandByName tenant name platform with
  | some brand => pure brand.id
  | none =>
      let brand := importedBrand runtime tenant name platform
      execute fun platform => platform.insertBrand brand
      pure brand.id

def brandIdOf (row : ImportRow) : ImportTx (Option BrandId) :=
  match row.brandName with
  | some name => do
      let id ← brandFor runtime tenant name
      pure (some id)
  | none => pure none

/-- The statement that carries a value its column does not take throws; here it is
the first one of the row, since the transaction takes back all of them. -/
def requireStorable (row : ImportRow) : ImportTx Unit :=
  if runtime.storable row then pure () else throwing .value

def importRow (row : ImportRow) : ImportTx Bool := do
  let platform ← query
  if (findProductBySlug tenant (slugify runtime.toLowerCase row.title) platform).isSome then
    pure false
  else
    requireStorable runtime row
    let brandId ← brandIdOf runtime tenant row
    let platform ← query
    let product := importedProduct runtime tenant row brandId platform
    execute fun platform => platform.insertProduct false product
    execute fun platform => platform.insertVariant (importedVariant runtime tenant row product.id platform)
    pure true

end Rows

/-- The catalogue and the counts as the loop of `importProducts` goes through the rows. -/
structure ImportRun where
  platform : Platform
  summary : ImportSummary

def importStep (runtime : Runtime) (tenant : TenantId) (current : ImportRun) (row : ImportRow) : ImportRun :=
  match forTenant (importRow runtime tenant row) current.platform with
  | (.ok true, after) =>
      { platform := after, summary := { current.summary with created := current.summary.created + 1 } }
  | (.ok false, after) =>
      { platform := after, summary := { current.summary with skipped := current.summary.skipped + 1 } }
  | (.error error, after) =>
      { platform := after
        summary := { current.summary with
          errors := current.summary.errors ++ [s!"{row.title}: {runtime.message error}"] } }

def ImportRun.start (platform : Platform) : ImportRun where
  platform := platform
  summary := { created := 0, skipped := 0, errors := [] }

/-- `importProducts` on the rows that `toRows` reads. -/
def importProducts (runtime : Runtime) (tenant : TenantId) (rows : List ImportRow) (platform : Platform) : ImportRun :=
  run (importStep runtime tenant) (.start platform) rows

end Aicos.Import
