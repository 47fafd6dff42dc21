import Aicos.Catalog.Requests
import Aicos.Extraction.Review
import Aicos.Import.Service

namespace Aicos.Extraction

open Aicos.Catalog (CatalogAction Platform ProductId ImageId Tenanted primaryImageChange)
open Aicos.Commerce Aicos.Data Aicos.Transaction
open Aicos.Identity (UserId)

/-! The catalog of all tenants next to their extraction rows.  Products come from the requests
of the catalog, from an import, and from results that are accepted. -/

/-- The columns of a product that only the review writes. -/
structure Origin where
  productId : ProductId
  aiGenerated : Bool
  extractionResultId : Option ResultId
deriving DecidableEq

/-- The column of a variant that only the review writes. -/
structure Confidence where
  variantId : VariantId
  fieldConfidence : Option Json
deriving DecidableEq

structure ReviewedCatalog where
  platform : Platform
  origins : List Origin
  confidences : List Confidence
  jobs : List (Tenanted ExtractionJob)
  frames : List (Tenanted ExtractionFrame)
  results : List (Tenanted ReviewedResult)
  reviewItems : List (Tenanted ReviewItem)
  /-- The columns of the media rows, whose keys the catalog has. -/
  mediaAssets : List (Tenanted MediaAsset)

def rowsOf {α : Type} (tenant : TenantId) (rows : List (Tenanted α)) : List α :=
  (rows.filter fun row => row.tenantId = tenant).map (·.row)

def mapRows {α : Type} (change : α → α) (rows : List (Tenanted α)) : List (Tenanted α) :=
  rows.map fun row => { row with row := change row.row }

namespace ReviewedCatalog

def originOf (rows : ReviewedCatalog) (id : ProductId) : Option Origin :=
  rows.origins.find? fun origin => origin.productId = id

def draftProduct (rows : ReviewedCatalog) (product : Catalog.Product) : DraftProduct where
  toProduct := product
  aiGenerated := ((rows.originOf product.id).map (·.aiGenerated)).getD false
  extractionResultId := (rows.originOf product.id).bind (·.extractionResultId)

def draftVariant (rows : ReviewedCatalog) (variant : Catalog.Variant) : DraftVariant where
  toVariant := variant
  fieldConfidence :=
    (rows.confidences.find? fun scored => scored.variantId = variant.id).bind (·.fieldConfidence)

/-- What row-level security shows the tenant. -/
def part (tenant : TenantId) (rows : ReviewedCatalog) : ReviewRows where
  jobs := rowsOf tenant rows.jobs
  frames := rowsOf tenant rows.frames
  results := rowsOf tenant rows.results
  reviewItems := rowsOf tenant rows.reviewItems
  mediaAssets := rowsOf tenant rows.mediaAssets
  products := (rows.platform.products.rows.filter fun product => product.tenantId = tenant).map rows.draftProduct
  variants := (rows.platform.variants.rows.filter fun variant => variant.tenantId = tenant).map rows.draftVariant
  images := rows.platform.images.rows.filter fun image => image.tenantId = tenant

def ofJob (rows : ReviewedCatalog) (job : JobId) (result : ResultId) : Bool :=
  rows.results.any fun row => row.row.id = result ∧ row.row.jobId = job

/-- The cascades of a deleted job reach what names it. -/
def deleteJob (job : JobId) (rows : ReviewedCatalog) : ReviewedCatalog :=
  { rows with
    jobs := rows.jobs.filter fun row => row.row.id ≠ job
    frames := rows.frames.filter fun row => row.row.jobId ≠ job
    results := rows.results.filter fun row => row.row.jobId ≠ job
    reviewItems := rows.reviewItems.filter fun row => row.row.jobId ≠ job ∧ ¬ rows.ofJob job row.row.resultId
    origins := rows.origins.map fun origin =>
      { origin with extractionResultId := origin.extractionResultId.filter fun result => ¬ rows.ofJob job result } }

def deleteMedia (media : MediaId) (rows : ReviewedCatalog) : ReviewedCatalog :=
  { rows with
    platform := { rows.platform with media := rows.platform.media.delete media }
    jobs := mapRows (fun job => { job with sourceMediaId := job.sourceMediaId.filter (· ≠ media) }) rows.jobs
    frames := mapRows (fun frame => { frame with mediaId := frame.mediaId.filter (· ≠ media) }) rows.frames
    mediaAssets := rows.mediaAssets.filter fun row => row.row.id ≠ media }

section Statements

variable (tenant : TenantId)

/-- A statement of the review by the tenant, on the rows of all tenants. -/
def apply : ReviewWrite → ReviewedCatalog → ReviewedCatalog
  | .insertProduct product, rows => { rows with
      platform := { rows.platform with products := rows.platform.products.insert product.toProduct }
      origins := rows.origins ++ [⟨product.id, product.aiGenerated, product.extractionResultId⟩] }
  | .insertVariant variant, rows => { rows with
      platform := { rows.platform with variants := rows.platform.variants.insert variant.toVariant }
      confidences := rows.confidences ++ [⟨variant.id, variant.fieldConfidence⟩] }
  | .insertImage image, rows => { rows with
      platform := { rows.platform with images := rows.platform.images.insert image } }
  | .setPrimaryImage product image, rows => { rows with
      platform := { rows.platform with
        products := rows.platform.products.update product (primaryImageChange image) } }
  | .acceptItem item now userId, rows => { rows with
      reviewItems := updateWhere (fun row => row.tenantId = tenant ∧ row.row.id = item)
        (fun row => { row with row := row.row.accept now userId }) rows.reviewItems }
  | .deleteJob job, rows => rows.deleteJob job
  | .deleteMedia media, rows => rows.deleteMedia media

/-- A tenant inserts rows of its own; the constraints of the tables span the tenants. -/
def admits : ReviewWrite → ReviewedCatalog → Bool
  | .insertProduct product, rows =>
      product.tenantId = tenant ∧ (rows.platform.insertProduct false product.toProduct).isOk ∧
      (rows.origins.all fun origin => product.extractionResultId = none ∨
        origin.extractionResultId ≠ product.extractionResultId) ∧
      product.extractionResultId.all fun result => rows.results.any fun row => row.row.id = result
  | .insertVariant variant, rows =>
      variant.tenantId = tenant ∧ (rows.platform.insertVariant variant.toVariant).isOk
  | .insertImage image, rows => image.tenantId = tenant ∧ (rows.platform.insertImage image).isOk
  | .setPrimaryImage product image, rows =>
      (rows.platform.updateProduct tenant product (primaryImageChange image)).isOk
  | .acceptItem item _ _, rows => rows.reviewItems.any fun row => row.tenantId = tenant ∧ row.row.id = item
  | .deleteJob job, rows => rows.jobs.any fun row => row.tenantId = tenant ∧ row.row.id = job
  | .deleteMedia media, rows =>
      (rows.platform.media.visible tenant media).isSome ∧ rows.platform.images.rows.all fun image => image.mediaId ≠ media

def store : Transaction.Store ReviewedCatalog ReviewWrite Empty where
  apply := apply tenant
  admits := admits tenant
  locks := fun _ => []

end Statements

/-- The transaction of `acceptResult`, committed; one that throws leaves nothing behind. -/
def acceptResult (context : ReviewContext) (ids : AcceptIds) (now : Instant) (userId : Option UserId)
    (resultId : ResultId) (rows : ReviewedCatalog) : ReviewedCatalog :=
  match ((context.acceptResult ids now userId resultId).within (part context.tenantId)).alone
      (store context.tenantId) rows with
  | .ok (_, after) => after
  | .error _ => rows

/-- An acceptance leaves the rows as they are, or its statements are admitted one after another. -/
theorem acceptResult_cases (context : ReviewContext) (ids : AcceptIds) (now : Instant) (userId : Option UserId)
    (resultId : ResultId) (rows : ReviewedCatalog) :
    rows.acceptResult context ids now userId resultId = rows ∨
      ∃ result item, (store context.tenantId).admitsAll (context.acceptStatements ids now userId result item) rows = true ∧
        rows.acceptResult context ids now userId resultId =
          (store context.tenantId).view (context.acceptStatements ids now userId result item) rows := by
  unfold acceptResult ReviewContext.acceptResult
  simp only [Program.require_bind, Program.query_bind, Program.within, Program.alone]
  cases (part context.tenantId rows).results.find? fun row => row.id = resultId with
  | none => exact .inl rfl
  | some result =>
      simp only [Program.within, Program.alone]
      cases (part context.tenantId rows).products.find? fun row => row.extractionResultId = some result.id with
      | some product => exact .inl rfl
      | none =>
          simp only [Program.within_writeAll]
          generalize (part context.tenantId rows).reviewItems.find? (fun row => row.resultId = result.id) = item
          cases ran : (Program.writeAll (ReviewReply.accepted resultId (context.created ids result))
              (context.acceptStatements ids now userId result item) : Program ReviewedCatalog ReviewWrite ReviewError _).alone
              (store context.tenantId) rows with
          | error abort => exact .inl rfl
          | ok outcome =>
              obtain ⟨admitted, _, after⟩ := (Program.alone_writeAll_iff _).mp ran
              exact .inr ⟨result, item, admitted, after⟩

end ReviewedCatalog

inductive ProductAction where
  | catalog (action : CatalogAction)
  | importProducts (runtime : Import.Runtime) (tenant : TenantId) (rows : List Import.ImportRow)
  | acceptResult (context : ReviewContext) (ids : AcceptIds) (now : Instant) (userId : Option UserId) (resultId : ResultId)

def ReviewedCatalog.step (nfkd : String → String) (rows : ReviewedCatalog) : ProductAction → ReviewedCatalog
  | .catalog action => { rows with platform := Catalog.step nfkd rows.platform action }
  | .importProducts runtime tenant imported =>
      { rows with platform := (Import.importProducts runtime tenant imported rows.platform).platform }
  | .acceptResult context ids now userId resultId => rows.acceptResult context ids now userId resultId

end Aicos.Extraction
