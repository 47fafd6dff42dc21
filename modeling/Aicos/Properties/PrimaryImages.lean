import Aicos.Commerce.Tables
import Aicos.Extraction.ReviewedCatalog
import Aicos.Transition.Run

namespace Aicos.Properties

open Aicos.Catalog Aicos.Commerce Aicos.Data Aicos.Extraction Aicos.Transaction Aicos.Transition

/-! The primary image of a product is stored twice, as a flag of the image and as a pointer of
the product.  A primary image that is attached moves the pointer and leaves the flag of the
image before it. -/

def primaryIds (images : Table ProductImage) (product : ProductId) : List ImageId :=
  (images.rows.filter fun image => image.productId = product ∧ image.isPrimary).map (·.id)

/-- Every product points at its one primary image; one that points nowhere has none. -/
def OnePrimary (platform : Platform) : Prop :=
  ∀ product ∈ platform.products.rows, primaryIds platform.images product.id = product.primaryImageId.toList

/-- The foreign key of the images. -/
def ImagesNamed (platform : Platform) : Prop :=
  ∀ image ∈ platform.images.rows, ∃ tenant, platform.products.ownerOf image.productId = some tenant

/-- The requests that attach images. -/
def AttachesImages : ProductAction → Prop
  | .catalog action =>
      match action.request with
      | .addImage _ _ _ => True
      | _ => False
  | .acceptResult _ _ _ _ _ => True
  | .importProducts _ _ _ => False

section Attach

variable {platform : Platform}

theorem primaryIds_insert {images : Table ProductImage} {image : ProductImage} (fresh : images.find? image.id = none)
    (product : ProductId) : primaryIds (images.insert image) product =
      primaryIds images product ++ if image.productId = product ∧ image.isPrimary = true then [image.id] else [] := by
  unfold primaryIds
  rw [Table.rows_insert fresh, List.filter_append, List.map_append]
  by_cases mine : image.productId = product ∧ image.isPrimary = true <;> simp [mine]

theorem ImagesNamed.products {products : Table Catalog.Product} (named : ImagesNamed platform)
    (keeps : platform.products.Keeps products) : ImagesNamed { platform with products } := by
  intro image member
  obtain ⟨tenant, owned⟩ := named image member
  exact ⟨tenant, keeps _ _ owned⟩

theorem ImagesNamed.insertImage {image : ProductImage} (named : ImagesNamed platform)
    (fresh : platform.images.find? image.id = none) (product : platform.products.has image.productId = true) :
    ImagesNamed { platform with images := platform.images.insert image } := by
  obtain ⟨row, found⟩ := Option.isSome_iff_exists.mp product
  refine (Table.forall_insert fresh).mpr ⟨named, row.tenantId, ?_⟩
  exact Table.ownerOf_eq_some.mpr ⟨row, found, rfl⟩

/-- A new product has no images. -/
theorem OnePrimary.insertProduct {product : Catalog.Product} (one : OnePrimary platform) (named : ImagesNamed platform)
    (fresh : platform.products.find? product.id = none) (bare : product.primaryImageId = none) :
    OnePrimary { platform with products := platform.products.insert product } := by
  refine (Table.forall_insert fresh).mpr ⟨one, ?_⟩
  have imageless : ∀ image ∈ platform.images.rows, image.productId ≠ product.id := by
    intro image member same
    obtain ⟨tenant, owned⟩ := named image member
    obtain ⟨row, found, _⟩ := Table.ownerOf_eq_some.mp owned
    rw [same, fresh] at found
    cases found
  rw [bare, primaryIds, List.filter_eq_nil_iff.mpr]
  · rfl
  · intro image member primary
    exact imageless image member (of_decide_eq_true primary).1

theorem OnePrimary.insertImage {image : ProductImage} (one : OnePrimary platform)
    (fresh : platform.images.find? image.id = none) (secondary : image.isPrimary = false) :
    OnePrimary { platform with images := platform.images.insert image } := by
  intro product member
  rw [primaryIds_insert fresh, if_neg (by simp [secondary]), List.append_nil]
  exact one product member

/-- The rows with a primary image more, at which its product points. -/
def Platform.promote (image : ProductImage) (platform : Platform) : Platform :=
  { platform with
    images := platform.images.insert image
    products := platform.products.update image.productId (primaryImageChange image.id) }

/-- A new primary image is the only one of a product that had none, and only of such a product. -/
theorem OnePrimary.promote_iff {image : ProductImage} {product : Catalog.Product} (one : OnePrimary platform)
    (fresh : platform.images.find? image.id = none) (found : platform.products.find? image.productId = some product)
    (primary : image.isPrimary = true) :
    OnePrimary (Platform.promote image platform) ↔ product.primaryImageId = none := by
  obtain ⟨member, same⟩ := Table.find?_some found
  have same : product.id = image.productId := same
  have before := one product member
  constructor
  · intro after
    have pointed : (primaryImageChange image.id).apply product ∈ (Platform.promote image platform).products.rows :=
      Table.mem_modify.mpr ⟨product, member, if_pos (decide_eq_true same)⟩
    have ids := after _ pointed
    have only : primaryIds platform.images product.id ++ [image.id] = [image.id] := by
      simpa [Platform.promote, primaryIds_insert fresh, primaryImageChange, primary, same] using ids
    rw [before] at only
    cases pointer : product.primaryImageId with
    | none => rfl
    | some old => simp [pointer] at only
  · intro bare row updated
    obtain ⟨old, present, result⟩ := Table.mem_modify.mp updated
    by_cases mine : TenantRow.id old = image.productId
    · have again : platform.products.find? image.productId = some old := mine ▸ Table.find?_of_mem present
      obtain rfl := Option.some.inj (found.symm.trans again)
      rw [if_pos (decide_eq_true mine)] at result
      subst result
      have unflagged : primaryIds platform.images product.id = [] := by
        rw [before, bare]
        rfl
      simp [Platform.promote, primaryIds_insert fresh, primaryImageChange, primary, same.symm, unflagged]
    · have apart : image.productId ≠ old.id := Ne.symm mine
      rw [if_neg (by simpa using mine)] at result
      subst result
      simpa [Platform.promote, primaryIds_insert fresh, apart] using one old present

end Attach

section AddImage

variable (tenant : TenantId) (platform : Platform) (id : ImageId) (productId : ProductId) (dto : CreateProductImageDto)

/-- The product is live, the media asset is the tenant's and the key of the image is free; a
pointer at the image is written where the row of the product keeps its constraints. -/
structure Attachable (product : Catalog.Product) : Prop where
  live : assertProductExists tenant platform productId = .ok product
  media : ∃ asset, platform.media.visible tenant dto.mediaAssetId = some asset
  fresh : platform.images.find? id = none
  free : dto.isPrimary = some true → ∀ other ∈ platform.products.rows, other.id ≠ productId →
    productClash product other = false
  referred : dto.isPrimary = some true →
    platform.stores.admits product.storeId = true ∧ platform.brands.admits product.brandId = true

variable {tenant platform id productId dto}

theorem addImage_ok_iff {after : Platform} :
    Catalog.addImage tenant platform id productId dto = .ok after ↔
      ∃ product, Attachable tenant platform id productId dto product ∧
        after = if dto.isPrimary = some true then Platform.promote (imageOf id tenant productId dto) platform
          else { platform with images := platform.images.insert (imageOf id tenant productId dto) } := by
  unfold Catalog.addImage
  simp only [bind_eq_ok, orThrow_ok, fromDb_ok, Platform.insertImage_ok_iff]
  have flag : dto.isPrimary.getD false = true ↔ dto.isPrimary = some true := by
    rcases dto.isPrimary with _ | _ | _ <;> simp
  constructor
  · intro attached
    obtain ⟨product, live, asset, media, added, ⟨fresh, _, _, same⟩, result⟩ := attached
    subst same
    by_cases primary : dto.isPrimary = some true
    · rw [if_pos (flag.mpr primary), fromDb_ok, Platform.updateProduct, map_eq_ok] at result
      obtain ⟨products, updated, rfl⟩ := result
      obtain ⟨row, shown, free, referred, rfl⟩ := Table.tryUpdate_ok_iff.mp updated
      obtain rfl : row = product := Option.some.inj (shown.symm.trans (assertProductExists_ok.mp live).1)
      obtain ⟨store, brand, _⟩ := of_decide_eq_true referred
      exact ⟨row, ⟨live, ⟨asset, media⟩, fresh, fun _ => free, fun _ => ⟨store, brand⟩⟩, (if_pos primary).symm⟩
    · rw [if_neg (mt flag.mp primary)] at result
      cases result
      exact ⟨product, ⟨live, ⟨asset, media⟩, fresh, fun asked => absurd asked primary,
        fun asked => absurd asked primary⟩, (if_neg primary).symm⟩
  · intro both
    obtain ⟨product, attachable, result⟩ := both
    subst result
    obtain ⟨asset, media⟩ := attachable.media
    have shown := (assertProductExists_ok.mp attachable.live).1
    refine ⟨product, attachable.live, asset, media, _, ⟨attachable.fresh, Table.has_of_visible shown,
      Table.has_of_visible media, rfl⟩, ?_⟩
    by_cases primary : dto.isPrimary = some true
    · rw [if_pos (flag.mpr primary), if_pos primary, fromDb_ok, Platform.updateProduct, map_eq_ok]
      refine ⟨_, Table.tryUpdate_ok_iff.mpr ⟨product, shown, attachable.free primary, ?_, rfl⟩, rfl⟩
      obtain ⟨store, brand⟩ := attachable.referred primary
      have pointed : (platform.images.insert (imageOf id tenant productId dto)).has id = true := by
        have keyed : TenantRow.id (imageOf id tenant productId dto) = id := rfl
        rw [Table.has, Table.find?_insert attachable.fresh, if_pos keyed]
        rfl
      exact decide_eq_true ⟨store, brand, pointed⟩
    · rw [if_neg (mt flag.mp primary), if_neg primary]
      rfl

theorem ImagesNamed.addImage {nfkd : String → String} (named : ImagesNamed platform) :
    ImagesNamed (Catalog.step nfkd platform ⟨tenant, .addImage id productId dto⟩) := by
  refine step_keeps nfkd named fun after ran => ?_
  obtain ⟨product, attachable, rfl⟩ := addImage_ok_iff.mp ran
  have shown := (assertProductExists_ok.mp attachable.live).1
  have inserted : ImagesNamed { platform with images := platform.images.insert (imageOf id tenant productId dto) } :=
    named.insertImage attachable.fresh (Table.has_of_visible shown)
  by_cases primary : dto.isPrimary = some true
  · rw [if_pos primary]
    exact inserted.products (Table.Keeps.modify _ _ _)
  · rw [if_neg primary]
    exact inserted

theorem one_primary_addImage_iff {nfkd : String → String} (one : OnePrimary platform) :
    OnePrimary (Catalog.step nfkd platform ⟨tenant, .addImage id productId dto⟩) ↔
      ∀ product, Attachable tenant platform id productId dto product → dto.isPrimary = some true →
        product.primaryImageId = none := by
  have attached {product : Catalog.Product} (attachable : Attachable tenant platform id productId dto product) :
      OnePrimary (if dto.isPrimary = some true then Platform.promote (imageOf id tenant productId dto) platform
        else { platform with images := platform.images.insert (imageOf id tenant productId dto) }) ↔
      (dto.isPrimary = some true → product.primaryImageId = none) := by
    have shown := (assertProductExists_ok.mp attachable.live).1
    by_cases primary : dto.isPrimary = some true
    · have flagged : (imageOf id tenant productId dto).isPrimary = true := by simp [imageOf, primary]
      rw [if_pos primary, one.promote_iff attachable.fresh (Table.visible_eq_some.mp shown).1 flagged]
      exact ⟨fun bare _ => bare, fun bare => bare primary⟩
    · have unflagged : (imageOf id tenant productId dto).isPrimary = false := by
        rcases asked : dto.isPrimary with _ | _ | _
        · simp [imageOf, asked]
        · simp [imageOf, asked]
        · exact absurd asked primary
      rw [if_neg primary]
      exact iff_of_true (one.insertImage attachable.fresh unflagged) fun asked => absurd asked primary
  rw [step_iff nfkd one]
  constructor
  · intro kept product attachable
    exact (attached attachable).mp (kept _ (addImage_ok_iff.mpr ⟨product, attachable, rfl⟩))
  · intro bare after ran
    obtain ⟨product, attachable, rfl⟩ := addImage_ok_iff.mp ran
    exact (attached attachable).mpr (bare product attachable)

end AddImage

section AcceptResult

variable {tenant : TenantId} {rows : ReviewedCatalog} {context : ReviewContext} {ids : AcceptIds}

/-- Statements that neither make a product nor name a primary image. -/
def LeavesPrimary : ReviewWrite → Prop
  | .insertImage image => image.isPrimary = false
  | .insertVariant _ | .acceptItem _ _ _ => True
  | _ => False

theorem admitted_insertImage {image : ProductImage}
    (admitted : ReviewedCatalog.admits tenant (.insertImage image) rows = true) :
    rows.platform.images.find? image.id = none ∧ rows.platform.products.has image.productId = true := by
  obtain ⟨_, inserted⟩ := of_decide_eq_true admitted
  obtain ⟨after, ran⟩ := isOk_iff.mp inserted
  obtain ⟨fresh, product, _⟩ := Platform.insertImage_ok_iff.mp ran
  exact ⟨fresh, product⟩

theorem ImagesNamed.statement {statement : ReviewWrite} (named : ImagesNamed rows.platform)
    (admitted : ReviewedCatalog.admits tenant statement rows = true) :
    ImagesNamed (ReviewedCatalog.apply tenant statement rows).platform := by
  cases statement with
  | insertProduct product => exact named.products (Table.Keeps.insert _ _)
  | insertImage image =>
      obtain ⟨fresh, product⟩ := admitted_insertImage admitted
      exact named.insertImage fresh product
  | setPrimaryImage product image => exact named.products (Table.Keeps.modify _ _ _)
  | _ => exact named

theorem OnePrimary.statement {statement : ReviewWrite} (one : OnePrimary rows.platform)
    (admitted : ReviewedCatalog.admits tenant statement rows = true) (leaves : LeavesPrimary statement) :
    OnePrimary (ReviewedCatalog.apply tenant statement rows).platform := by
  cases statement with
  | insertImage image => exact one.insertImage (admitted_insertImage admitted).1 leaves
  | insertVariant variant => exact one
  | acceptItem item now userId => exact one
  | _ => cases leaves

theorem OnePrimary.statements {statements : List ReviewWrite} (one : OnePrimary rows.platform)
    (leaves : ∀ statement ∈ statements, LeavesPrimary statement)
    (admitted : (ReviewedCatalog.store tenant).admitsAll statements rows = true) :
    OnePrimary ((ReviewedCatalog.store tenant).view statements rows).platform := by
  have preserved : ∀ statement ∈ statements, ∀ rows : ReviewedCatalog,
      ReviewedCatalog.admits tenant statement rows = true → OnePrimary rows.platform →
        OnePrimary (ReviewedCatalog.apply tenant statement rows).platform :=
    fun statement member _ here one => one.statement here (leaves statement member)
  have holds := Store.view_preserves (ReviewedCatalog.store tenant) preserved admitted one
  exact holds

/-- Of the images of a result, the first alone is primary. -/
theorem leavesPrimary_attachImages {media : List Extraction.MediaId} {index : Nat} {statement : ReviewWrite}
    (member : statement ∈ context.attachImages ids (index + 1) media) : LeavesPrimary statement := by
  induction media generalizing index with
  | nil => cases member
  | cons first rest ih =>
      rw [ReviewContext.attachImages, if_neg (Nat.succ_ne_zero index), List.nil_append] at member
      cases List.mem_cons.mp member with
      | inl here =>
          subst here
          exact decide_eq_false (Nat.succ_ne_zero index)
      | inr later => exact ih later

theorem OnePrimary.attachImages {product : Catalog.Product} (one : OnePrimary rows.platform)
    (found : rows.platform.products.find? ids.product = some product) (bare : product.primaryImageId = none)
    {media : List Extraction.MediaId}
    (admitted : (ReviewedCatalog.store tenant).admitsAll (context.attachImages ids 0 media) rows = true) :
    OnePrimary ((ReviewedCatalog.store tenant).view (context.attachImages ids 0 media) rows).platform := by
  cases media with
  | nil => exact one
  | cons first rest =>
      obtain ⟨inserted, later⟩ := Bool.and_eq_true_iff.mp admitted
      obtain ⟨_, later⟩ := Bool.and_eq_true_iff.mp later
      obtain ⟨fresh, _⟩ := admitted_insertImage inserted
      have promoted : OnePrimary ((ReviewedCatalog.store tenant).view [.insertImage (context.productImage ids 0 first),
          .setPrimaryImage ids.product (ids.image + 0)] rows).platform := (one.promote_iff fresh found rfl).mpr bare
      have leaves : ∀ statement ∈ context.attachImages ids 1 rest, LeavesPrimary statement :=
        fun _ member => leavesPrimary_attachImages member
      have attached := promoted.statements leaves later
      exact attached

/-- An accepted product is new and points nowhere until its first image is attached. -/
theorem OnePrimary.acceptStatements {now : Instant} {userId : Option Identity.UserId} {result : ReviewedResult}
    {item : Option ReviewItem} (one : OnePrimary rows.platform) (named : ImagesNamed rows.platform)
    (admitted : (ReviewedCatalog.store tenant).admitsAll
      (context.acceptStatements ids now userId result item) rows = true) :
    OnePrimary ((ReviewedCatalog.store tenant).view
      (context.acceptStatements ids now userId result item) rows).platform := by
  unfold ReviewContext.acceptStatements at admitted ⊢
  rw [Store.admitsAll_append, Bool.and_eq_true] at admitted
  rw [Store.view_append]
  obtain ⟨before, reviewed⟩ := admitted
  refine OnePrimary.statements ?_ ?_ reviewed
  · obtain ⟨drafted, later⟩ := Bool.and_eq_true_iff.mp before
    obtain ⟨_, later⟩ := Bool.and_eq_true_iff.mp later
    obtain ⟨_, inserted, _⟩ := of_decide_eq_true drafted
    obtain ⟨after, ran⟩ := isOk_iff.mp inserted
    have fresh := (Platform.insertProduct_ok ran).1
    have made : OnePrimary { rows.platform with
        products := rows.platform.products.insert (context.draft ids result).toProduct } :=
      one.insertProduct named fresh rfl
    have found := (Table.find?_insert fresh ids.product).trans (if_pos rfl)
    have attached := OnePrimary.attachImages made found rfl later
    exact attached
  · intro statement member
    obtain ⟨accepted, _, rfl⟩ : ∃ accepted, item = some accepted ∧
        ReviewWrite.acceptItem accepted.id now userId = statement := by simpa using member
    trivial

theorem ImagesNamed.acceptResult (named : ImagesNamed rows.platform) (now : Instant) (userId : Option Identity.UserId)
    (resultId : ResultId) : ImagesNamed (rows.acceptResult context ids now userId resultId).platform := by
  cases rows.acceptResult_cases context ids now userId resultId with
  | inl same => rw [same]; exact named
  | inr accepted =>
      obtain ⟨result, item, admitted, after⟩ := accepted
      have preserved : ∀ statement ∈ context.acceptStatements ids now userId result item, ∀ rows : ReviewedCatalog,
          ReviewedCatalog.admits context.tenantId statement rows = true → ImagesNamed rows.platform →
            ImagesNamed (ReviewedCatalog.apply context.tenantId statement rows).platform :=
        fun _ _ _ here named => named.statement here
      have holds := Store.view_preserves (ReviewedCatalog.store context.tenantId) preserved admitted named
      rw [after]
      exact holds

theorem OnePrimary.acceptResult (one : OnePrimary rows.platform) (named : ImagesNamed rows.platform) (now : Instant)
    (userId : Option Identity.UserId) (resultId : ResultId) :
    OnePrimary (rows.acceptResult context ids now userId resultId).platform := by
  cases rows.acceptResult_cases context ids now userId resultId with
  | inl same => rw [same]; exact one
  | inr accepted =>
      obtain ⟨result, item, admitted, after⟩ := accepted
      rw [after]
      exact one.acceptStatements named admitted

end AcceptResult

/-- An image that is attached as primary is so to a product that has no primary image. -/
def AttachesFirst (rows : ReviewedCatalog) : ProductAction → Prop
  | .catalog ⟨tenant, .addImage id productId dto⟩ =>
      ∀ product, Attachable tenant rows.platform id productId dto product → dto.isPrimary = some true →
        product.primaryImageId = none
  | _ => True

section Step

variable {nfkd : String → String} {rows : ReviewedCatalog} {action : ProductAction}

theorem images_named_step (attaches : AttachesImages action) (named : ImagesNamed rows.platform) :
    ImagesNamed (rows.step nfkd action).platform := by
  cases action with
  | importProducts runtime tenant imported => cases attaches
  | acceptResult context ids now userId resultId => exact named.acceptResult now userId resultId
  | catalog action =>
      obtain ⟨tenant, request⟩ := action
      cases request with
      | addImage id productId dto => exact named.addImage
      | _ => cases attaches

theorem one_primary_step_iff (attaches : AttachesImages action) (named : ImagesNamed rows.platform)
    (one : OnePrimary rows.platform) :
    OnePrimary (rows.step nfkd action).platform ↔ AttachesFirst rows action := by
  cases action with
  | importProducts runtime tenant imported => cases attaches
  | acceptResult context ids now userId resultId =>
      exact iff_of_true (one.acceptResult named now userId resultId) trivial
  | catalog action =>
      obtain ⟨tenant, request⟩ := action
      cases request with
      | addImage id productId dto => exact one_primary_addImage_iff one
      | _ => cases attaches

end Step

section Scarf

/-- A scarf without images, and two photos of it. -/
def scarf : Catalog.Product :=
  productOf 1 1 "scarf" {
    title := "Scarf", slug := some "scarf", description := none, type := none, status := none, storeId := .undefined
    brandId := .undefined, seoTitle := none, seoDescription := none, searchKeywords := none }

def scarfShop : ReviewedCatalog where
  platform := { emptyShop with
    products := { rows := [scarf], distinct := by decide }
    media := { rows := [⟨7, 1⟩, ⟨8, 1⟩], distinct := by decide } }
  origins := []
  confidences := []
  jobs := []
  frames := []
  results := []
  reviewItems := []
  mediaAssets := []

def addPhoto (id : ImageId) (media : Catalog.MediaId) : ProductAction :=
  .catalog { tenant := 1, request := .addImage id 1 {
    mediaAssetId := media, position := none, altText := none, isPrimary := some true } }

end Scarf

end Aicos.Properties
