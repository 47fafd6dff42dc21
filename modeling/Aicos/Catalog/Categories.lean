import Aicos.Catalog.Products

namespace Aicos.Catalog

open Aicos.Commerce Aicos.Data

/-! `CategoriesService` and `BrandsService`. -/

structure CreateCategoryDto where
  name : String
  slug : Option String
  parentId : IdField
  description : Option String
  imageUrl : Option String
  position : Option Nat
deriving DecidableEq

structure UpdateCategoryDto where
  name : Option String
  slug : Option String
  parentId : IdField
  description : Option String
  imageUrl : Option String
  position : Option Nat
deriving DecidableEq

structure CreateBrandDto where
  name : String
  slug : Option String
  logoUrl : Option String
deriving DecidableEq

structure UpdateBrandDto where
  name : Option String
  slug : Option String
  logoUrl : Option String
deriving DecidableEq

def categoryClash (row other : Category) : Bool :=
  row.tenantId = other.tenantId ∧ row.slug = other.slug

def brandClash (row other : Brand) : Bool :=
  row.tenantId = other.tenantId ∧ row.slug = other.slug

namespace Platform

variable (platform : Platform)

def categoryForeign (row : Category) : Bool :=
  platform.categories.admits row.parentId

def insertCategory (dangling : Bool) (row : Category) : Except DbError Platform :=
  (platform.categories.tryInsert categoryClash (fun row => ¬ dangling ∧ platform.categoryForeign row) row).map
    fun categories => { platform with categories }

def updateCategory (tenant : TenantId) (id : CategoryId) (change : Change Category) : Except DbError Platform :=
  (platform.categories.tryUpdate categoryClash platform.categoryForeign tenant id change).map
    fun categories => { platform with categories }

def insertBrand (row : Brand) : Except DbError Platform :=
  (platform.brands.tryInsert brandClash (fun _ => true) row).map fun brands => { platform with brands }

def updateBrand (tenant : TenantId) (id : BrandId) (change : Change Brand) : Except DbError Platform :=
  (platform.brands.tryUpdate brandClash (fun _ => true) tenant id change).map
    fun brands => { platform with brands }

def withoutBrand : Change Product where
  apply := fun row => { row with brandId := none }
  id := fun _ => rfl
  tenantId := fun _ => rfl

/-- The foreign key of the optional relation sets `brandId` to NULL, whoever owns the product. -/
def deleteBrand (tenant : TenantId) (id : BrandId) : Except DbError Platform :=
  match platform.brands.visible tenant id with
  | none => .error .recordNotFound
  | some _ => .ok { platform with
      brands := platform.brands.delete id
      products := platform.products.modify (fun product => product.brandId = some id) withoutBrand }

variable {platform} {after : Platform} {tenant : TenantId}

theorem insertCategory_ok {dangling : Bool} {row : Category}
    (inserted : platform.insertCategory dangling row = .ok after) :
    platform.categories.find? row.id = none ∧
      after = { platform with categories := platform.categories.insert row } := by
  obtain ⟨categories, ran, rfl⟩ := map_eq_ok.mp inserted
  obtain ⟨fresh, _, rfl⟩ := Table.tryInsert_ok ran
  exact ⟨fresh, rfl⟩

theorem updateCategory_ok {id : CategoryId} {change : Change Category}
    (updated : platform.updateCategory tenant id change = .ok after) :
    ∃ row, platform.categories.visible tenant id = some row ∧
      after = { platform with categories := platform.categories.update id change } := by
  obtain ⟨categories, ran, rfl⟩ := map_eq_ok.mp updated
  obtain ⟨row, shown, _, rfl⟩ := Table.tryUpdate_ok ran
  exact ⟨row, shown, rfl⟩

theorem insertBrand_ok {row : Brand} (inserted : platform.insertBrand row = .ok after) :
    after = { platform with brands := platform.brands.insert row } := by
  obtain ⟨brands, ran, rfl⟩ := map_eq_ok.mp inserted
  obtain ⟨_, _, rfl⟩ := Table.tryInsert_ok ran
  rfl

theorem updateBrand_ok {id : BrandId} {change : Change Brand}
    (updated : platform.updateBrand tenant id change = .ok after) :
    after = { platform with brands := platform.brands.update id change } := by
  obtain ⟨brands, ran, rfl⟩ := map_eq_ok.mp updated
  obtain ⟨row, _, _, rfl⟩ := Table.tryUpdate_ok ran
  rfl

end Platform

def categoryOf (id : CategoryId) (tenant : TenantId) (slug : String) (dto : CreateCategoryDto) : Category where
  id := id
  tenantId := tenant
  parentId := dto.parentId.column
  name := dto.name
  slug := slug
  description := dto.description
  imageUrl := dto.imageUrl
  position := dto.position.getD 0
  deletedAt := none

def categoryChange (dto : UpdateCategoryDto) : Change Category where
  apply := fun row => { row with
    name := dto.name.getD row.name
    slug := dto.slug.getD row.slug
    description := dto.description <|> row.description
    imageUrl := dto.imageUrl <|> row.imageUrl
    position := dto.position.getD row.position
    parentId := dto.parentId.relation.getD row.parentId }
  id := fun _ => rfl
  tenantId := fun _ => rfl

def removeCategoryChange (now : Instant) : Change Category where
  apply := fun row => { row with deletedAt := some now }
  id := fun _ => rfl
  tenantId := fun _ => rfl

def brandOf (id : BrandId) (tenant : TenantId) (slug : String) (dto : CreateBrandDto) : Brand where
  id := id
  tenantId := tenant
  name := dto.name
  slug := slug
  logoUrl := dto.logoUrl

def brandChange (dto : UpdateBrandDto) : Change Brand where
  apply := fun row => { row with
    name := dto.name.getD row.name
    slug := dto.slug.getD row.slug
    logoUrl := dto.logoUrl <|> row.logoUrl }
  id := fun _ => rfl
  tenantId := fun _ => rfl

def categoryConflict (slug : String) : String :=
  s!"Category with slug \"{slug}\" already exists"

def brandConflict (slug : String) : String :=
  s!"Brand with slug \"{slug}\" already exists"

section Service

variable (nfkd : String → String) (tenant : TenantId) (platform : Platform)

def findCategory (id : CategoryId) : Option Category :=
  (platform.categories.visible tenant id).filter fun category => category.deletedAt = none

def assertParentExists : IdField → CatalogTx Unit
  | .id parentId => do
      let _ ← orThrow (.badRequest "Parent category not found") (findCategory tenant platform parentId)
      pure ()
  | _ => .error (.http (.badRequest "Parent category not found"))

/-- `create`: an id that is falsy is not looked up. -/
def createCategory (id : CategoryId) (dto : CreateCategoryDto) : CatalogTx Platform := do
  let slug := dto.slug.getD (slugify nfkd dto.name)
  match dto.parentId with
  | .id _ => assertParentExists tenant platform dto.parentId
  | _ => pure ()
  mapUnique (categoryConflict slug)
    (platform.insertCategory (dto.parentId = .empty) (categoryOf id tenant slug dto))

/-- The parent of `update`: an id that is neither `undefined` nor `null` is looked up. -/
def checkParent (id : CategoryId) : IdField → CatalogTx Unit
  | .undefined => pure ()
  | .null => pure ()
  | .empty => assertParentExists tenant platform .empty
  | .id parentId =>
      if parentId = id then throw (.http (.badRequest "A category cannot be its own parent"))
      else assertParentExists tenant platform (.id parentId)

def updateCategory (id : CategoryId) (dto : UpdateCategoryDto) : CatalogTx Platform := do
  let _ ← orThrow (.notFound "Category not found") (findCategory tenant platform id)
  checkParent tenant platform id dto.parentId
  mapUnique (categoryConflict (dto.slug.getD "")) do
    connect platform.categories tenant dto.parentId
    platform.updateCategory tenant id (categoryChange dto)

def removeCategory (id : CategoryId) (now : Instant) : CatalogTx Platform := do
  let _ ← orThrow (.notFound "Category not found") (findCategory tenant platform id)
  fromDb (platform.updateCategory tenant id (removeCategoryChange now))

def createBrand (id : BrandId) (dto : CreateBrandDto) : CatalogTx Platform :=
  let slug := dto.slug.getD (slugify nfkd dto.name)
  mapUnique (brandConflict slug) (platform.insertBrand (brandOf id tenant slug dto))

def findBrand (id : BrandId) : CatalogTx Brand :=
  orThrow (.notFound "Brand not found") (platform.brands.visible tenant id)

def updateBrand (id : BrandId) (dto : UpdateBrandDto) : CatalogTx Platform := do
  let _ ← findBrand tenant platform id
  mapUnique (brandConflict (dto.slug.getD "")) (platform.updateBrand tenant id (brandChange dto))

def removeBrand (id : BrandId) : CatalogTx Platform := do
  let _ ← findBrand tenant platform id
  fromDb (platform.deleteBrand tenant id)

end Service

end Aicos.Catalog
