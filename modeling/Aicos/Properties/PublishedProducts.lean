import Aicos.Commerce.Tables
import Aicos.Extraction.ReviewedCatalog
import Aicos.Import.Rows

namespace Aicos.Properties

open Aicos.Catalog Aicos.Commerce Aicos.Data Aicos.Extraction Aicos.Import Aicos.Transaction Aicos.Transition

/-! The publication time of ACTIVE products.  Publishing sets it; creating a product ACTIVE
and updating one to ACTIVE do not. -/

def Dated (product : Catalog.Product) : Prop :=
  product.status = .active → product.publishedAt ≠ none

def Published (platform : Platform) : Prop :=
  ∀ product ∈ platform.products.rows, Dated product

/-- The requests that make products and change their statuses. -/
def MovesStatus : ProductAction → Prop
  | .catalog action =>
      match action.request with
      | .createProduct _ _ | .updateProduct _ _ | .publishProduct _ _ | .removeProduct _ _ => True
      | _ => False
  | .importProducts _ _ _ | .acceptResult _ _ _ _ _ => True

section Accepted

variable (nfkd : String → String) (tenant : TenantId) (platform : Platform) (id : ProductId)

/-- The row of a create, with its slug. -/
def createdProduct (dto : CreateProductDto) : Catalog.Product :=
  productOf id tenant (dto.slug.getD (Catalog.slugify nfkd dto.title)) dto

/-- The keys of a new product are free, and what it refers to is there. -/
structure Insertable (dto : CreateProductDto) : Prop where
  fresh : platform.products.find? id = none
  free : ∀ other ∈ platform.products.rows, productClash (createdProduct nfkd tenant id dto) other = false
  filled : dto.storeId ≠ .empty ∧ dto.brandId ≠ .empty
  referred : platform.productForeign (createdProduct nfkd tenant id dto) = true

/-- The product of an update is there, its new slug is free, and what it refers to is there. -/
structure Updatable (dto : UpdateProductDto) (product : Catalog.Product) : Prop where
  live : assertProductExists tenant platform id = .ok product
  brand : connect platform.brands tenant dto.brandId = .ok ()
  store : connect platform.stores tenant dto.storeId = .ok ()
  free : ∀ other ∈ platform.products.rows, other.id ≠ id →
    productClash ((productChange dto).apply product) other = false
  referred : platform.productForeign ((productChange dto).apply product) = true

variable {nfkd tenant platform id}

theorem createProduct_ok_iff {dto : CreateProductDto} {after : Platform} :
    createProduct nfkd tenant platform id dto = .ok after ↔ Insertable nfkd tenant platform id dto ∧
      after = { platform with products := platform.products.insert (createdProduct nfkd tenant id dto) } := by
  unfold createProduct
  simp only [mapUnique_ok, Platform.insertProduct, map_eq_ok, Table.tryInsert_ok_iff]
  constructor
  · intro inserted
    obtain ⟨products, ⟨fresh, free, met, same⟩, result⟩ := inserted
    subst same
    obtain ⟨whole, referred⟩ := of_decide_eq_true met
    have filled : ¬ (dto.storeId = .empty ∨ dto.brandId = .empty) := by simpa using whole
    exact ⟨⟨fresh, free, not_or.mp filled, referred⟩, result.symm⟩
  · intro both
    obtain ⟨insertable, result⟩ := both
    have whole : ¬ (dto.storeId = .empty ∨ dto.brandId = .empty) := not_or.mpr insertable.filled
    refine ⟨_, ⟨insertable.fresh, insertable.free, ?_, rfl⟩, result.symm⟩
    exact decide_eq_true ⟨by simpa using whole, insertable.referred⟩

theorem updateProduct_ok_iff {dto : UpdateProductDto} {after : Platform} :
    updateProduct tenant platform id dto = .ok after ↔ ∃ product, Updatable tenant platform id dto product ∧
      after = { platform with products := platform.products.update id (productChange dto) } := by
  unfold Catalog.updateProduct
  simp only [bind_eq_ok, mapUnique_ok, Platform.updateProduct, map_eq_ok, Table.tryUpdate_ok_iff]
  constructor
  · intro updated
    obtain ⟨product, live, _, brand, _, store, products, ⟨row, shown, free, referred, same⟩, result⟩ := updated
    subst same
    obtain rfl : row = product := Option.some.inj (shown.symm.trans (assertProductExists_ok.mp live).1)
    exact ⟨row, ⟨live, brand, store, free, referred⟩, result.symm⟩
  · intro both
    obtain ⟨product, updatable, result⟩ := both
    have shown := (assertProductExists_ok.mp updatable.live).1
    exact ⟨product, updatable.live, (), updatable.brand, (), updatable.store, _,
      ⟨product, shown, updatable.free, updatable.referred, rfl⟩, result.symm⟩

end Accepted

/-- A create that goes through does not ask for ACTIVE, and an update that goes through does
so of a product that has been published. -/
def ActivatesPublished (nfkd : String → String) (rows : ReviewedCatalog) : ProductAction → Prop
  | .catalog ⟨tenant, .createProduct id dto⟩ =>
      Insertable nfkd tenant rows.platform id dto → dto.status ≠ some .active
  | .catalog ⟨tenant, .updateProduct id dto⟩ =>
      ∀ product, Updatable tenant rows.platform id dto product → dto.status = some .active →
        product.publishedAt ≠ none
  | _ => True

section Step

variable {nfkd : String → String} {platform : Platform}

theorem published_create_iff (tenant : TenantId) (id : ProductId) (dto : CreateProductDto)
    (published : Published platform) :
    Published (Catalog.step nfkd platform ⟨tenant, .createProduct id dto⟩) ↔
      (Insertable nfkd tenant platform id dto → dto.status ≠ some .active) := by
  have dated : Dated (createdProduct nfkd tenant id dto) ↔ dto.status ≠ some .active := by
    cases asked : dto.status with
    | none => simp [Dated, createdProduct, productOf, asked]
    | some status => simp [Dated, createdProduct, productOf, asked]
  rw [step_iff nfkd published, ← dated]
  constructor
  · intro kept insertable
    have inserted := kept _ (createProduct_ok_iff.mpr ⟨insertable, rfl⟩)
    exact ((Table.forall_insert insertable.fresh).mp inserted).2
  · intro draft after ran
    obtain ⟨insertable, rfl⟩ := createProduct_ok_iff.mp ran
    exact (Table.forall_insert insertable.fresh).mpr ⟨published, draft insertable⟩

theorem published_update_iff (tenant : TenantId) (id : ProductId) (dto : UpdateProductDto)
    (published : Published platform) :
    Published (Catalog.step nfkd platform ⟨tenant, .updateProduct id dto⟩) ↔
      ∀ product, Updatable tenant platform id dto product → dto.status = some .active → product.publishedAt ≠ none := by
  have updated {product : Catalog.Product} (updatable : Updatable tenant platform id dto product) :
      Published { platform with products := platform.products.update id (productChange dto) } ↔
        (dto.status = some .active → product.publishedAt ≠ none) := by
    obtain ⟨found, _⟩ := Table.visible_eq_some.mp (assertProductExists_ok.mp updatable.live).1
    have before := published product (Table.find?_some found).1
    refine (Table.forall_update found published).trans ?_
    cases asked : dto.status with
    | none => simpa [Dated, productChange, asked] using before
    | some status => simp [Dated, productChange, asked]
  rw [step_iff nfkd published]
  constructor
  · intro kept product updatable
    exact (updated updatable).mp (kept _ (updateProduct_ok_iff.mpr ⟨product, updatable, rfl⟩))
  · intro kept after ran
    obtain ⟨product, updatable, rfl⟩ := updateProduct_ok_iff.mp ran
    exact (updated updatable).mpr (kept product updatable)

/-- What a request makes of the products, where it does so by one update of one of them. -/
theorem Published.of_update {tenant : TenantId} {id : ProductId} {change : Change Catalog.Product} {after : Platform}
    (published : Published platform) (kept : ∀ product, Dated product → Dated (change.apply product))
    (updated : (do
      let _ ← assertProductExists tenant platform id
      fromDb (platform.updateProduct tenant id change)) = .ok after) : Published after := by
  obtain ⟨_, _, updated⟩ := bind_eq_ok.mp updated
  obtain ⟨_, _, rfl⟩ := Platform.updateProduct_ok (fromDb_ok.mp updated)
  exact Table.forall_modify published kept

theorem Published.remove (published : Published platform) (tenant : TenantId) (id : ProductId) (now : Instant) :
    Published (Catalog.step nfkd platform ⟨tenant, .removeProduct id now⟩) := by
  refine step_keeps nfkd published fun after ran => ?_
  exact published.of_update (fun _ dated => dated) ran

theorem Published.publish (published : Published platform) (tenant : TenantId) (id : ProductId) (now : Instant) :
    Published (Catalog.step nfkd platform ⟨tenant, .publishProduct id now⟩) := by
  refine step_keeps nfkd published fun after ran => ?_
  exact published.of_update (fun _ _ _ => Option.some_ne_none now) ran

theorem Published.importStep {runtime : Import.Runtime} {tenant : TenantId} {current : ImportRun}
    (published : Published current.platform) (row : ImportRow) :
    Published (Import.importStep runtime tenant current row).platform := by
  by_cases free : Free runtime tenant current.platform row
  · obtain ⟨after, created, stepped⟩ := importStep_created free
    obtain ⟨brandId, products⟩ := created.product
    rw [stepped]
    unfold Published
    rw [products]
    intro product member
    cases List.mem_append.mp member with
    | inl old => exact published product old
    | inr new =>
        obtain rfl := List.mem_singleton.mp new
        exact nofun
  · rw [(importStep_refused free).1]
    exact published

theorem Published.importRun {runtime : Import.Runtime} {tenant : TenantId} {current : ImportRun}
    (published : Published current.platform) (rows : List ImportRow) :
    Published (run (Import.importStep runtime tenant) current rows).platform := by
  induction rows generalizing current with
  | nil => exact published
  | cons row rest ih => exact ih (published.importStep row)

theorem insertProduct_notMem_attachImages (product : DraftProduct) (context : ReviewContext) (ids : AcceptIds)
    (media : List Extraction.MediaId) (index : Nat) :
    ReviewWrite.insertProduct product ∉ context.attachImages ids index media := by
  induction media generalizing index with
  | nil => exact List.not_mem_nil
  | cons first rest ih =>
      have later := ih (index + 1)
      by_cases primary : index = 0
      · subst primary
        simpa [ReviewContext.attachImages] using later
      · simpa [ReviewContext.attachImages, primary] using later

/-- An acceptance inserts one product, a draft. -/
theorem insertProduct_mem_acceptStatements {product : DraftProduct} {context : ReviewContext} {ids : AcceptIds}
    {now : Instant} {userId : Option Identity.UserId} {result : ReviewedResult} {item : Option ReviewItem}
    (member : .insertProduct product ∈ context.acceptStatements ids now userId result item) :
    product = context.draft ids result := by
  have images := insertProduct_notMem_attachImages product context ids result.imageMediaIds 0
  simpa [ReviewContext.acceptStatements, images] using member

theorem Published.statement {tenant : TenantId} {rows : ReviewedCatalog} {statement : ReviewWrite}
    (published : Published rows.platform) (admitted : ReviewedCatalog.admits tenant statement rows = true)
    (drafts : ∀ product, statement = .insertProduct product → product.status = .draft) :
    Published (ReviewedCatalog.apply tenant statement rows).platform := by
  cases statement with
  | insertProduct product =>
      obtain ⟨_, inserted, _⟩ := of_decide_eq_true admitted
      obtain ⟨after, ran⟩ := isOk_iff.mp inserted
      have draft := drafts product rfl
      refine (Table.forall_insert (Platform.insertProduct_ok ran).1).mpr ⟨published, fun active => ?_⟩
      rw [draft] at active
      cases active
  | setPrimaryImage product image => exact Table.forall_modify published fun _ dated => dated
  | _ => exact published

theorem Published.acceptResult {rows : ReviewedCatalog} (published : Published rows.platform) (context : ReviewContext)
    (ids : AcceptIds) (now : Instant) (userId : Option Identity.UserId) (resultId : ResultId) :
    Published (rows.acceptResult context ids now userId resultId).platform := by
  cases rows.acceptResult_cases context ids now userId resultId with
  | inl same => rw [same]; exact published
  | inr accepted =>
      obtain ⟨result, item, admitted, after⟩ := accepted
      rw [after]
      have preserved : ∀ statement ∈ context.acceptStatements ids now userId result item, ∀ rows : ReviewedCatalog,
          ReviewedCatalog.admits context.tenantId statement rows = true → Published rows.platform →
            Published (ReviewedCatalog.apply context.tenantId statement rows).platform := by
        intro statement member rows here published
        refine published.statement here fun product same => ?_
        subst same
        rw [insertProduct_mem_acceptStatements member]
        rfl
      have holds := Store.view_preserves (ReviewedCatalog.store context.tenantId) preserved admitted published
      exact holds

theorem published_step_iff {rows : ReviewedCatalog} {action : ProductAction} (moves : MovesStatus action)
    (published : Published rows.platform) :
    Published (rows.step nfkd action).platform ↔ ActivatesPublished nfkd rows action := by
  cases action with
  | importProducts runtime tenant imported => exact iff_of_true (published.importRun imported) trivial
  | acceptResult context ids now userId resultId =>
      exact iff_of_true (published.acceptResult context ids now userId resultId) trivial
  | catalog action =>
      obtain ⟨tenant, request⟩ := action
      cases request with
      | createProduct id dto => exact published_create_iff tenant id dto published
      | updateProduct id dto => exact published_update_iff tenant id dto published
      | removeProduct id now => exact iff_of_true (published.remove tenant id now) trivial
      | publishProduct id now => exact iff_of_true (published.publish tenant id now) trivial
      | _ => cases moves

end Step

/-- Every ACTIVE product has its publication time, in every state of a run, exactly when no
request of the run that goes through makes an unpublished product ACTIVE by its status. -/
theorem active_products_dated_iff (nfkd : String → String) {start : ReviewedCatalog} (published : Published start.platform)
    {trace : List ProductAction} (moves : ∀ action ∈ trace, MovesStatus action) :
    Visits (ReviewedCatalog.step nfkd) (fun rows => Published rows.platform) start trace ↔
      Along (ReviewedCatalog.step nfkd) (ActivatesPublished nfkd) start trace := by
  have framed : ∀ (rows : ReviewedCatalog) (action : ProductAction), MovesStatus action → True → True :=
    fun _ _ _ _ => trivial
  exact visits_iff_along framed (fun rows action moves _ published => published_step_iff moves published) moves trivial
    published

section DeskLamp

def nothingReviewed : ReviewedCatalog where
  platform := emptyShop
  origins := []
  confidences := []
  jobs := []
  frames := []
  results := []
  reviewItems := []
  mediaAssets := []

def createDeskLamp (status : Option ProductStatus) : ProductAction :=
  .catalog { tenant := 1, request := .createProduct 1 {
    title := "Desk lamp", slug := some "desk-lamp", description := none, type := none, status, storeId := .undefined
    brandId := .undefined, seoTitle := none, seoDescription := none, searchKeywords := none } }

def activateDeskLamp : ProductAction :=
  .catalog { tenant := 1, request := .updateProduct 1 {
    title := none, slug := none, description := none, type := none, status := some .active, brandId := .undefined
    storeId := .undefined, seoTitle := none, seoDescription := none, searchKeywords := none } }

theorem desk_lamp_dated_iff :
    (Visits (ReviewedCatalog.step id) (fun rows => Published rows.platform) nothingReviewed
        [createDeskLamp none, activateDeskLamp] ↔
      Along (ReviewedCatalog.step id) (ActivatesPublished id) nothingReviewed [createDeskLamp none, activateDeskLamp]) ∧
    ¬ Along (ReviewedCatalog.step id) (ActivatesPublished id) nothingReviewed [createDeskLamp none, activateDeskLamp] := by
  have published : Published nothingReviewed.platform := List.forall_mem_nil _
  have exactly : Visits (ReviewedCatalog.step id) (fun rows => Published rows.platform) nothingReviewed
      [createDeskLamp none, activateDeskLamp] ↔
        Along (ReviewedCatalog.step id) (ActivatesPublished id) nothingReviewed [createDeskLamp none, activateDeskLamp] :=
    active_products_dated_iff id published (by simp [createDeskLamp, activateDeskLamp, MovesStatus])
  refine ⟨exactly, fun along => ?_⟩
  exact (exactly.mpr along).last _ (List.mem_singleton.mpr rfl) rfl rfl

/-- A product that is created ACTIVE, and a draft that is updated to ACTIVE. -/
theorem desk_lamp_active_undated :
    ¬ Visits (ReviewedCatalog.step id) (fun rows => Published rows.platform) nothingReviewed
        [createDeskLamp (some .active)] ∧
      ¬ Visits (ReviewedCatalog.step id) (fun rows => Published rows.platform) nothingReviewed
        [createDeskLamp none, activateDeskLamp] := by
  constructor
  · intro visits
    exact visits.last _ (List.mem_singleton.mpr rfl) rfl rfl
  · intro visits
    exact visits.last _ (List.mem_singleton.mpr rfl) rfl rfl

end DeskLamp

end Aicos.Properties
