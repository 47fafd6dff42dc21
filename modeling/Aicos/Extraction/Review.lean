import Aicos.Catalog.Schema
import Aicos.Data.Text
import Aicos.Extraction.Barcodes
import Aicos.Identity.Schema
import Aicos.Transaction.Program

namespace Aicos.Extraction

open Aicos.Commerce Aicos.Data Aicos.Transaction
open Aicos.Catalog (ProductId ImageId ProductImage)
open Aicos.Identity (UserId)

/-! The human gate: `ExtractionService.acceptResult` makes a draft product of a
result, and `ExtractionService.remove` deletes a job with its results. -/

structure ReviewedResult extends ExtractionResult where
  description : Option String
deriving DecidableEq

structure ReviewItem extends ExtractionReviewItem where
  id : Nat
  reviewedAt : Option Instant
  reviewedByUserId : Option UserId
deriving DecidableEq

structure DraftProduct extends Catalog.Product where
  aiGenerated : Bool
  extractionResultId : Option ResultId
deriving DecidableEq

structure DraftVariant extends Catalog.Variant where
  fieldConfidence : Option Json
deriving DecidableEq

/-- The rows of one tenant. -/
structure ReviewRows where
  jobs : List ExtractionJob
  frames : List ExtractionFrame
  results : List ReviewedResult
  reviewItems : List ReviewItem
  mediaAssets : List MediaAsset
  products : List DraftProduct
  variants : List DraftVariant
  images : List ProductImage
deriving DecidableEq

inductive ReviewWrite where
  | insertProduct (product : DraftProduct)
  | insertVariant (variant : DraftVariant)
  | insertImage (image : ProductImage)
  | setPrimaryImage (product : ProductId) (image : ImageId)
  | acceptItem (item : Nat) (now : Instant) (userId : Option UserId)
  | deleteJob (job : JobId)
  | deleteMedia (media : MediaId)
deriving DecidableEq

def ReviewItem.accept (now : Instant) (userId : Option UserId) (item : ReviewItem) : ReviewItem :=
  { item with decision := .accepted, reviewedAt := some now, reviewedByUserId := userId }

namespace ReviewRows

def ofJob (rows : ReviewRows) (job : JobId) (result : ResultId) : Bool :=
  rows.results.any fun row => row.id = result ∧ row.jobId = job

/-- The frames, results and review items of a job go with it; a product loses its link. -/
def deleteJob (job : JobId) (rows : ReviewRows) : ReviewRows :=
  { rows with
    jobs := rows.jobs.filter fun row => row.id ≠ job
    frames := rows.frames.filter fun row => row.jobId ≠ job
    results := rows.results.filter fun row => row.jobId ≠ job
    reviewItems := rows.reviewItems.filter fun row => row.jobId ≠ job ∧ ¬ rows.ofJob job row.resultId
    products := rows.products.map fun row =>
      { row with extractionResultId := row.extractionResultId.filter fun result => ¬ rows.ofJob job result } }

/-- Jobs and frames lose their media; an image keeps it from being deleted. -/
def deleteMedia (media : MediaId) (rows : ReviewRows) : ReviewRows :=
  { rows with
    jobs := rows.jobs.map fun row => { row with sourceMediaId := row.sourceMediaId.filter (· ≠ media) }
    frames := rows.frames.map fun row => { row with mediaId := row.mediaId.filter (· ≠ media) }
    mediaAssets := rows.mediaAssets.filter fun row => row.id ≠ media }

def apply : ReviewWrite → ReviewRows → ReviewRows
  | .insertProduct product, rows => { rows with products := rows.products ++ [product] }
  | .insertVariant variant, rows => { rows with variants := rows.variants ++ [variant] }
  | .insertImage image, rows => { rows with images := rows.images ++ [image] }
  | .setPrimaryImage product image, rows => { rows with
      products := updateWhere (fun row => row.id = product)
        (fun row => { row with primaryImageId := some image }) rows.products }
  | .acceptItem item now userId, rows => { rows with
      reviewItems := updateWhere (fun row => row.id = item) (ReviewItem.accept now userId) rows.reviewItems }
  | .deleteJob job, rows => rows.deleteJob job
  | .deleteMedia media, rows => rows.deleteMedia media

def hasProduct (rows : ReviewRows) (id : ProductId) : Bool :=
  rows.products.any fun row => row.id = id

/-- The unique keys and foreign keys of the schema; an update or a deletion by id
fails where the row is missing. -/
def admits : ReviewWrite → ReviewRows → Bool
  | .insertProduct product, rows =>
      (rows.products.all fun row => row.id ≠ product.id ∧ row.slug ≠ product.slug ∧
        (product.extractionResultId = none ∨ row.extractionResultId ≠ product.extractionResultId)) ∧
      product.extractionResultId.all fun result => rows.results.any fun row => row.id = result
  | .insertVariant variant, rows =>
      (rows.variants.all fun row => row.id ≠ variant.id ∧ (variant.sku = none ∨ row.sku ≠ variant.sku)) ∧
      rows.hasProduct variant.productId
  | .insertImage image, rows =>
      (rows.images.all fun row => row.id ≠ image.id) ∧ rows.hasProduct image.productId ∧
      rows.mediaAssets.any fun row => row.id = image.mediaId
  | .setPrimaryImage product image, rows => rows.hasProduct product ∧ rows.images.any fun row => row.id = image
  | .acceptItem item _ _, rows => rows.reviewItems.any fun row => row.id = item
  | .deleteJob job, rows => rows.jobs.any fun row => row.id = job
  | .deleteMedia media, rows =>
      (rows.mediaAssets.any fun row => row.id = media) ∧ rows.images.all fun row => row.mediaId ≠ media

def store : Transaction.Store ReviewRows ReviewWrite Empty where
  apply := apply
  admits := admits
  locks := fun _ => []

end ReviewRows

inductive ReviewError where
  | notFound (message : String)
  | badRequest (message : String)
deriving DecidableEq

structure CreatedProduct where
  id : ProductId
  slug : String
  status : ProductStatus
deriving DecidableEq

/-- What a request of the review returns. -/
inductive ReviewReply where
  | accepted (result : ResultId) (product : CreatedProduct)
  | removed (job : JobId)
  | mediaDeleted (media : MediaId)
deriving DecidableEq

abbrev ReviewTx (α : Type) := Program ReviewRows ReviewWrite ReviewError α

/-- What `acceptResult` draws: the cuids of its product, its variant and, from
`image` on, its images. -/
structure AcceptIds where
  product : ProductId
  variant : VariantId
  image : ImageId
deriving DecidableEq

/-- The tenant, and what the Node runtime gives: lower-casing and the text of a cuid. -/
structure ReviewContext where
  tenantId : TenantId
  toLowerCase : String → String
  cuid : ResultId → String

def slugify (toLowerCase : String → String) (text : String) : String :=
  slugWithin 72 "product" toLowerCase text

namespace ReviewContext

variable (context : ReviewContext)

def productTitle (result : ReviewedResult) : String :=
  let title := (result.title.map trim).getD ""
  if title = "" then "Untitled product" else title

/-- `resultId.slice(-6)` after the slug of the title. -/
def productSlug (result : ReviewedResult) : String :=
  let cuid := (context.cuid result.id).toList
  s!"{slugify context.toLowerCase (productTitle result)}-{String.ofList (cuid.drop (cuid.length - 6))}"

def draft (ids : AcceptIds) (result : ReviewedResult) : DraftProduct where
  id := ids.product
  tenantId := context.tenantId
  storeId := none
  brandId := none
  title := productTitle result
  slug := context.productSlug result
  description := result.description
  type := .physical
  status := .draft
  seoTitle := none
  seoDescription := none
  primaryImageId := none
  searchKeywords := none
  publishedAt := none
  deletedAt := none
  aiGenerated := true
  extractionResultId := some result.id

def defaultVariant (ids : AcceptIds) (result : ReviewedResult) : DraftVariant where
  id := ids.variant
  tenantId := context.tenantId
  productId := ids.product
  sku := none
  barcode := result.barcode.bind nonEmpty
  title := "Default"
  priceCents := result.priceCents.getD 0
  compareAtCents := none
  costCents := none
  currency := result.currency.getD "USD"
  weightUnit := .g
  inventoryPolicy := .deny
  taxable := true
  position := 0
  deletedAt := none
  fieldConfidence := some result.fieldConfidence

def productImage (ids : AcceptIds) (index : Nat) (media : MediaId) : ProductImage where
  id := ids.image + index
  tenantId := context.tenantId
  productId := ids.product
  mediaId := media
  position := index
  altText := none
  isPrimary := index = 0

/-- The loop over `imageIds`, from `index` on. -/
def attachImages (ids : AcceptIds) : Nat → List MediaId → List ReviewWrite
  | _, [] => []
  | index, media :: rest =>
      .insertImage (context.productImage ids index media) ::
        ((if index = 0 then [.setPrimaryImage ids.product (ids.image + index)] else []) ++
          attachImages ids (index + 1) rest)

def acceptStatements (ids : AcceptIds) (now : Instant) (userId : Option UserId) (result : ReviewedResult)
    (item : Option ReviewItem) : List ReviewWrite :=
  [.insertProduct (context.draft ids result), .insertVariant (context.defaultVariant ids result)] ++
    context.attachImages ids 0 result.imageMediaIds ++
    (item.map fun item => ReviewWrite.acceptItem item.id now userId).toList

def created (ids : AcceptIds) (result : ReviewedResult) : CreatedProduct :=
  { id := ids.product, slug := context.productSlug result, status := .draft }

/-- The `include`s of its `findFirst` are queries of their own. -/
def acceptResult (ids : AcceptIds) (now : Instant) (userId : Option UserId) (resultId : ResultId) :
    ReviewTx ReviewReply := do
  let result ← Program.require fun rows =>
    match rows.results.find? fun row => row.id = resultId with
    | some result => .ok result
    | none => .error (.notFound "Extraction result not found")
  let reviewItem ← Program.query fun rows => rows.reviewItems.find? fun row => row.resultId = result.id
  let product ← Program.query fun rows => rows.products.find? fun row => row.extractionResultId = some result.id
  match product with
  | some _ => Program.throw (.badRequest "This result has already been turned into a product")
  | none =>
      Program.writeAll (.accepted resultId (context.created ids result))
        (context.acceptStatements ids now userId result reviewItem)

end ReviewContext

def remove (id : JobId) : ReviewTx ReviewReply := do
  let job ← Program.require fun rows =>
    match rows.jobs.find? fun row => row.id = id with
    | some job => .ok job
    | none => .error (.notFound "Extraction job not found")
  Program.writeAll (.removed id) [.deleteJob job.id]

/-- The last transaction of `MediaService.remove`. -/
def deleteAsset (media : MediaId) : ReviewTx ReviewReply :=
  Program.writeAll (.mediaDeleted media) [.deleteMedia media]

end Aicos.Extraction
