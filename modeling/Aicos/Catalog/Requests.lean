import Aicos.Catalog.Categories
import Aicos.Catalog.Locations
import Aicos.Catalog.Stock

namespace Aicos.Catalog

open Aicos.Commerce Aicos.Data Aicos.Inventory

/-! The requests of the catalog, category, inventory and location services that
write, of any tenants one after another. -/

inductive CatalogRequest where
  | createProduct (id : ProductId) (dto : CreateProductDto)
  | updateProduct (id : ProductId) (dto : UpdateProductDto)
  | removeProduct (id : ProductId) (now : Instant)
  | publishProduct (id : ProductId) (now : Instant)
  | createVariant (id : VariantId) (productId : ProductId) (dto : CreateVariantDto)
  | updateVariant (id : VariantId) (dto : UpdateVariantDto)
  | removeVariant (id : VariantId) (now : Instant)
  | addImage (id : ImageId) (productId : ProductId) (dto : CreateProductImageDto)
  | createCategory (id : CategoryId) (dto : CreateCategoryDto)
  | updateCategory (id : CategoryId) (dto : UpdateCategoryDto)
  | removeCategory (id : CategoryId) (now : Instant)
  | createBrand (id : BrandId) (dto : CreateBrandDto)
  | updateBrand (id : BrandId) (dto : UpdateBrandDto)
  | removeBrand (id : BrandId)
  | createLocation (id : LocationId) (dto : CreateLocationDto)
  | updateLocation (id : LocationId) (dto : UpdateLocationDto)
  | removeLocation (id : LocationId)
  | createItem (id : InventoryItemId) (dto : CreateInventoryItemDto) (now : Instant)
  | updateItem (id : InventoryItemId) (dto : UpdateInventoryItemDto) (now : Instant)
  | adjust (id : InventoryItemId) (dto : CreateAdjustmentDto) (now : Instant)

structure CatalogAction where
  tenant : TenantId
  request : CatalogRequest

variable (nfkd : String → String)

def CatalogRequest.run (tenant : TenantId) (platform : Platform) : CatalogRequest → CatalogTx Platform
  | .createProduct id dto => Catalog.createProduct nfkd tenant platform id dto
  | .updateProduct id dto => Catalog.updateProduct tenant platform id dto
  | .removeProduct id now => Catalog.removeProduct tenant platform id now
  | .publishProduct id now => Catalog.publishProduct tenant platform id now
  | .createVariant id productId dto => Catalog.createVariant nfkd tenant platform id productId dto
  | .updateVariant id dto => Catalog.updateVariant tenant platform id dto
  | .removeVariant id now => Catalog.removeVariant tenant platform id now
  | .addImage id productId dto => Catalog.addImage tenant platform id productId dto
  | .createCategory id dto => Catalog.createCategory nfkd tenant platform id dto
  | .updateCategory id dto => Catalog.updateCategory tenant platform id dto
  | .removeCategory id now => Catalog.removeCategory tenant platform id now
  | .createBrand id dto => Catalog.createBrand nfkd tenant platform id dto
  | .updateBrand id dto => Catalog.updateBrand tenant platform id dto
  | .removeBrand id => Catalog.removeBrand tenant platform id
  | .createLocation id dto => Catalog.createLocation tenant platform id dto
  | .updateLocation id dto => Catalog.updateLocation tenant platform id dto
  | .removeLocation id => Catalog.removeLocation tenant platform id
  | .createItem id dto now => Catalog.createItem tenant platform id dto now
  | .updateItem id dto now => Catalog.updateItem tenant platform id dto now
  | .adjust id dto now => Catalog.adjust tenant platform id dto now

/-- A refused request leaves the rows as they were. -/
def step (platform : Platform) (action : CatalogAction) : Platform :=
  match action.request.run nfkd action.tenant platform with
  | .ok after => after
  | .error _ => platform

section Step

variable {good : Platform → Prop} {platform : Platform} {action : CatalogAction}

/-- A step keeps what it makes of the rows, where the request goes through. -/
theorem step_iff (holds : good platform) :
    good (step nfkd platform action) ↔
      ∀ after, action.request.run nfkd action.tenant platform = .ok after → good after := by
  unfold step
  cases ran : action.request.run nfkd action.tenant platform with
  | error refused => exact iff_of_true holds nofun
  | ok after =>
      constructor
      · intro kept other same
        exact Except.ok.inj same ▸ kept
      · intro kept
        exact kept after rfl

/-- What every request that goes through keeps, a step keeps. -/
theorem step_keeps (holds : good platform)
    (kept : ∀ after, action.request.run nfkd action.tenant platform = .ok after → good after) :
    good (step nfkd platform action) :=
  (step_iff nfkd holds).mpr kept

end Step

end Aicos.Catalog
