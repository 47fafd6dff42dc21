import Aicos.Commerce.Tables
import Aicos.Search.Documents
import Aicos.Transition.Mirror

namespace Aicos.Search

open Aicos.Catalog Aicos.Data Aicos.Transition
open Aicos.Commerce (TenantId VariantId Instant bind_eq_ok)

/-! `SearchIndexerService` and the requests of `ProductsService` and `BrandsService`
that it follows.  A request checks its row in one transaction, writes in a second,
reads the product again in a third, and then writes the index; requests of all
tenants interleave. -/

abbrev RequestId := Nat

inductive IndexedRequest where
  | createProduct (id : ProductId) (dto : CreateProductDto)
  | updateProduct (id : ProductId) (dto : UpdateProductDto)
  | removeProduct (id : ProductId) (now : Instant)
  | publishProduct (id : ProductId) (now : Instant)
  | createVariant (id : VariantId) (productId : ProductId) (dto : CreateVariantDto)
  | updateVariant (id : VariantId) (dto : UpdateVariantDto)
  | removeVariant (id : VariantId) (now : Instant)
  | updateBrand (id : BrandId) (dto : UpdateBrandDto)

/-- The second transaction of a request, with what the first one read. -/
inductive CatalogWrite where
  | createProduct (id : ProductId) (slug : String) (dto : CreateProductDto)
  | updateProduct (id : ProductId) (dto : UpdateProductDto)
  | removeProduct (id : ProductId) (now : Instant)
  | publishProduct (id : ProductId) (now : Instant)
  | createVariant (id : VariantId) (productId : ProductId) (sku : String) (dto : CreateVariantDto)
  | updateVariant (id : VariantId) (productId : ProductId) (dto : UpdateVariantDto)
  | removeVariant (id : VariantId) (productId : ProductId) (now : Instant)
  | updateBrand (id : BrandId) (dto : UpdateBrandDto)

def check (nfkd : String → String) (tenant : TenantId) (platform : Platform) : IndexedRequest → CatalogTx CatalogWrite
  | .createProduct id dto => pure (.createProduct id (dto.slug.getD (slugify nfkd dto.title)) dto)
  | .updateProduct id dto => do
      let _ ← assertProductExists tenant platform id
      pure (.updateProduct id dto)
  | .removeProduct id now => do
      let _ ← assertProductExists tenant platform id
      pure (.removeProduct id now)
  | .publishProduct id now => do
      let _ ← assertProductExists tenant platform id
      pure (.publishProduct id now)
  | .createVariant id productId dto => do
      let product ← assertProductExists tenant platform productId
      pure (.createVariant id productId (dto.sku.getD (skuFromTitle nfkd product.title [dto.title])) dto)
  | .updateVariant id dto => do
      let existing ← assertVariantExists tenant platform id
      pure (.updateVariant id existing.productId dto)
  | .removeVariant id now => do
      let existing ← assertVariantExists tenant platform id
      pure (.removeVariant id existing.productId now)
  | .updateBrand id dto => do
      let _ ← findBrand tenant platform id
      pure (.updateBrand id dto)

def CatalogWrite.run (tenant : TenantId) (platform : Platform) : CatalogWrite → Except DbError Platform
  | .createProduct id slug dto =>
      platform.insertProduct (dto.storeId = .empty ∨ dto.brandId = .empty) (productOf id tenant slug dto)
  | .updateProduct id dto => do
      connect platform.brands tenant dto.brandId
      connect platform.stores tenant dto.storeId
      platform.updateProduct tenant id (productChange dto)
  | .removeProduct id now => platform.updateProduct tenant id (removeChange now)
  | .publishProduct id now => platform.updateProduct tenant id (publishChange now)
  | .createVariant id productId sku dto => platform.insertVariant (variantOf id tenant productId sku dto)
  | .updateVariant id _ dto => platform.updateVariant tenant id (variantChange dto)
  | .removeVariant id _ now => platform.updateVariant tenant id (removeVariantChange now)
  | .updateBrand id dto => platform.updateBrand tenant id (brandChange dto)

/-- The indexer's call after the write: `removeProduct` deletes without reading. -/
def CatalogWrite.follow : CatalogWrite → Option (Sync ProductId ProductDoc)
  | .createProduct id _ _ => some (.reading id)
  | .updateProduct id _ => some (.reading id)
  | .removeProduct id _ => some (.writing id none)
  | .publishProduct id _ => some (.reading id)
  | .createVariant _ productId _ _ => some (.reading productId)
  | .updateVariant _ productId _ => some (.reading productId)
  | .removeVariant _ productId _ => some (.reading productId)
  | .updateBrand _ _ => none

inductive Phase where
  | checked (write : CatalogWrite)
  | syncing (sync : Sync ProductId ProductDoc)

def Phase.sync? : Phase → Option (Sync ProductId ProductDoc)
  | .checked _ => none
  | .syncing sync => some sync

structure Call where
  tenant : TenantId
  phase : Phase

/-- `index` is Meilisearch's, by the primary key of its documents. -/
structure State where
  platform : Platform
  index : ProductId → Option ProductDoc
  calls : RequestId → Option Call

inductive SearchAction where
  | begin (request : RequestId) (tenant : TenantId) (body : IndexedRequest)
  | advance (request : RequestId)

namespace State

def enter (state : State) (request : RequestId) (call : Option Call) : State :=
  { state with calls := Function.update state.calls request call }

/-- A request that a constraint refuses ends without a call of the indexer. -/
def commit (state : State) (request : RequestId) (tenant : TenantId) (write : CatalogWrite) : State :=
  match write.run tenant state.platform with
  | .ok after => { state with platform := after }.enter request (write.follow.map fun sync => ⟨tenant, .syncing sync⟩)
  | .error _ => state.enter request none

/-- `syncProduct` after its read: `addDocuments` or, without a product, `deleteDocument`. -/
def sync (fixed : Fixed) (state : State) (request : RequestId) (tenant : TenantId) :
    Sync ProductId ProductDoc → State
  | .reading id => state.enter request (some ⟨tenant, .syncing (.writing id (readDoc fixed tenant state.platform id))⟩)
  | .writing id doc => { state with index := Function.update state.index id doc }.enter request none

def step (fixed : Fixed) (nfkd : String → String) (state : State) : SearchAction → State
  | .begin request tenant body =>
      match state.calls request, check nfkd tenant state.platform body with
      | none, .ok write => state.enter request (some ⟨tenant, .checked write⟩)
      | _, _ => state
  | .advance request =>
      match state.calls request with
      | none => state
      | some ⟨tenant, .checked write⟩ => state.commit request tenant write
      | some ⟨tenant, .syncing sync⟩ => state.sync fixed request tenant sync

/-- No request is under way. -/
def Quiet (state : State) : Prop :=
  ∀ request, state.calls request = none

end State

/-- Meilisearch's `addDocuments`: a document replaces the one under its primary key. -/
def addDocuments (docs : List ProductDoc) (index : ProductId → Option ProductDoc) : ProductId → Option ProductDoc :=
  docs.foldl (fun index doc => Function.update index doc.id (some doc)) index

def liveProducts (tenant : TenantId) (platform : Platform) : List Product :=
  platform.products.rows.filter fun product => product.tenantId = tenant ∧ product.deletedAt = none

/-- `reindexTenant` adds the documents of the tenant's products, in one call. -/
def reindexTenant (fixed : Fixed) (tenant : TenantId) (platform : Platform)
    (index : ProductId → Option ProductDoc) : ProductId → Option ProductDoc :=
  addDocuments ((liveProducts tenant platform).map fun product => toDoc (included fixed tenant platform product)) index

section Alone

/-- The request as the catalogue takes it, without an indexer. -/
def IndexedRequest.run (nfkd : String → String) (tenant : TenantId) (platform : Platform) :
    IndexedRequest → CatalogTx Platform
  | .createProduct id dto => Catalog.createProduct nfkd tenant platform id dto
  | .updateProduct id dto => Catalog.updateProduct tenant platform id dto
  | .removeProduct id now => Catalog.removeProduct tenant platform id now
  | .publishProduct id now => Catalog.publishProduct tenant platform id now
  | .createVariant id productId dto => Catalog.createVariant nfkd tenant platform id productId dto
  | .updateVariant id dto => Catalog.updateVariant tenant platform id dto
  | .removeVariant id now => Catalog.removeVariant tenant platform id now
  | .updateBrand id dto => Catalog.updateBrand tenant platform id dto

/-- With nothing in between, the check and the write are the request of the catalogue. -/
theorem check_run {nfkd : String → String} {tenant : TenantId} {platform after : Platform} {request : IndexedRequest} :
    request.run nfkd tenant platform = .ok after ↔
      ∃ write, check nfkd tenant platform request = .ok write ∧ write.run tenant platform = .ok after := by
  cases request <;>
    simp [IndexedRequest.run, check, CatalogWrite.run, createProduct, updateProduct, removeProduct, publishProduct,
      createVariant, updateVariant, removeVariant, updateBrand, bind_eq_ok, pure, Except.pure]

end Alone

end Aicos.Search
