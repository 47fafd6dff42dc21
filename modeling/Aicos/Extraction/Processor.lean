import Aicos.Data.Rows
import Aicos.Extraction.Schema

namespace Aicos.Extraction

open Aicos.Commerce Aicos.Data

/-! `ExtractionProcessor.process`, cut at its transactions and at the work between them. -/

def frameCount : Nat := 6

def findJob (id : JobId) (rows : ExtractionRows) : Option ExtractionJob :=
  rows.jobs.find? fun job => job.id = id

def updateJob (id : JobId) (change : ExtractionJob → ExtractionJob) (rows : ExtractionRows) : ExtractionRows :=
  { rows with jobs := updateWhere (fun job => job.id = id) change rows.jobs }

/-- Neither AWAITING_REVIEW nor PUBLISHED. -/
def ExtractionJob.unprocessed (job : ExtractionJob) : Bool :=
  job.status ≠ .awaitingReview ∧ job.status ≠ .published

def ExtractionJob.ingesting (now : Instant) (job : ExtractionJob) : ExtractionJob :=
  { job with status := .ingesting, startedAt := some now }

def sourceMedia (job : ExtractionJob) (rows : ExtractionRows) : Option SourceMedia :=
  job.sourceMediaId.bind fun id =>
    (rows.mediaAssets.find? fun asset => asset.id = id).map fun asset =>
      { id := asset.id, bucket := asset.bucket, objectKey := asset.objectKey, mimeType := asset.mimeType, type := asset.type }

/-- `FrameSamplerService.sample`: nothing without media, and frames numbered in order. -/
def sample (media : Option SourceMedia) (raw : List RawFrame) : List SampledFrame :=
  match media with
  | none => []
  | some _ => raw.mapIdx fun frameIndex raw => { frameIndex, raw }

/-- `SemanticDeduperService.dedupe`; `keep` is `none` where it is off or fails. -/
def dedupe (keep : Option (List Nat)) (frames : List SampledFrame) : List SampledFrame :=
  match keep with
  | none => frames
  | some keep =>
      let out := (frames.zipIdx.filter fun pair => pair.2 ∈ keep).map (·.1)
      if 0 < out.length ∧ out.length < frames.length then out else frames

/-- `padStart(3, '0')`. -/
def padStart (index : Nat) : String :=
  String.ofList ((toString index).toList.leftpad 3 '0')

def frameKey (jobId : JobId) (index : Nat) : String :=
  s!"extractions/{jobId}/frame_{padStart index}.jpg"

def jpegAsset (id : MediaId) (bucket objectKey : String) : MediaAsset where
  id := id
  type := .image
  status := .ready
  bucket := bucket
  objectKey := objectKey
  mimeType := some "image/jpeg"
  isTemporary := true

/-- The cuids that a transaction draws: rows take `row`, `row + 1` and so on, assets `media` and so on. -/
structure DrawnIds where
  row : Nat
  media : MediaId
deriving DecidableEq

def frameAsset (jobId : JobId) (bucket : Option String) (ids : DrawnIds) (index : Nat) (frame : SampledFrame) :
    Option MediaAsset :=
  match bucket with
  | some bucket =>
      if frame.raw.uploaded then some (jpegAsset (ids.media + index) bucket (frameKey jobId index)) else none
  | none => none

def frameRow (jobId : JobId) (media : Option SourceMedia) (bucket : Option String) (ids : DrawnIds) (index : Nat)
    (frame : SampledFrame) : ExtractionFrame where
  id := ids.row + index
  jobId := jobId
  mediaId := ((frameAsset jobId bucket ids index frame).map (·.id)).or (media.map (·.id))
  frameIndex := frame.frameIndex
  timestampMs := frame.raw.timestampMs
  blurScore := frame.raw.blurScore
  barcode := frame.raw.barcode
  providerUsed := some .gemini
  confidence := none

def placeholderFrame (jobId : JobId) (ids : DrawnIds) (index : Nat) : ExtractionFrame where
  id := ids.row + index
  jobId := jobId
  mediaId := none
  frameIndex := index
  timestampMs := none
  blurScore := none
  barcode := none
  providerUsed := some .gemini
  confidence := some (9 / 10)

def newFrames (jobId : JobId) (media : Option SourceMedia) (bucket : Option String) (ids : DrawnIds)
    (sampled : List SampledFrame) : List ExtractionFrame :=
  if sampled.length > 0 then sampled.mapIdx (frameRow jobId media bucket ids)
  else (List.range frameCount).map (placeholderFrame jobId ids)

def ExtractionJob.analyzing (frames : Nat) (job : ExtractionJob) : ExtractionJob :=
  { job with status := .analyzing, framesExtracted := frames, framesAnalyzed := frames }

/-- The second transaction; no row has one of the drawn cuids. -/
def storeFrames (jobId : JobId) (media : Option SourceMedia) (bucket : Option String) (ids : DrawnIds)
    (sampled : List SampledFrame) (rows : ExtractionRows) : ExtractionRows :=
  let frames := newFrames jobId media bucket ids sampled
  updateJob jobId (ExtractionJob.analyzing frames.length) { rows with
    frames := rows.frames ++ frames
    mediaAssets := rows.mediaAssets ++ (sampled.mapIdx (frameAsset jobId bucket ids)).filterMap id }

def productAsset (bucket : Option String) (imageKeys : List (String × String)) (ids : DrawnIds) (index : Nat)
    (product : ExtractedProduct) : Option MediaAsset :=
  match bucket, product.imageUrl.bind fun url => imageKeys.lookup url with
  | some bucket, some key => some (jpegAsset (ids.media + index) bucket key)
  | _, _ => none

def resultRow (jobId : JobId) (bucket : Option String) (imageKeys : List (String × String)) (frameIds : List FrameId)
    (ids : DrawnIds) (index : Nat) (product : ExtractedProduct) : ExtractionResult where
  id := ids.row + index
  jobId := jobId
  title := some product.title
  priceCents := product.priceCents
  currency := some "USD"
  barcode := product.barcode
  brandGuess := product.brandGuess
  categoryGuess := product.categoryGuess
  overallConfidence := product.overallConfidence
  fieldConfidence := product.fieldConfidence
  sourceFrameIds := frameIds.take 2
  imageMediaIds := ((productAsset bucket imageKeys ids index product).map (·.id)).toList

def reviewItem (result : ExtractionResult) : ExtractionReviewItem where
  jobId := result.jobId
  resultId := result.id
  decision := .pending

def ExtractionJob.handedOver (analysis : Analysis) (now : Instant) (job : ExtractionJob) : ExtractionJob :=
  { job with
    status := .awaitingReview
    productsFound := analysis.products.length
    completedAt := some now
    errorMessage := analysis.note }

def newResults (jobId : JobId) (bucket : Option String) (frameIds : List FrameId) (analysis : Analysis)
    (ids : DrawnIds) : List ExtractionResult :=
  analysis.products.mapIdx (resultRow jobId bucket analysis.imageKeys frameIds ids)

/-- The third transaction. -/
def storeResults (jobId : JobId) (bucket : Option String) (frameIds : List FrameId) (analysis : Analysis)
    (ids : DrawnIds) (now : Instant) (rows : ExtractionRows) : ExtractionRows :=
  let results := newResults jobId bucket frameIds analysis ids
  updateJob jobId (ExtractionJob.handedOver analysis now) { rows with
    results := rows.results ++ results
    reviewItems := rows.reviewItems ++ results.map reviewItem
    mediaAssets := rows.mediaAssets ++
      (analysis.products.mapIdx (productAsset bucket analysis.imageKeys ids)).filterMap id }

end Aicos.Extraction
