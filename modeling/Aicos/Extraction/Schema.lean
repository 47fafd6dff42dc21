import Aicos.Commerce.Schema
import Aicos.Data.Json
import Mathlib.Data.Rat.Defs

namespace Aicos.Extraction

open Aicos.Commerce Aicos.Data

/-! The rows of the extraction pipeline, and what its services hand to it. -/

abbrev JobId := Nat
abbrev MediaId := Nat
abbrev FrameId := Nat
abbrev ResultId := Nat

inductive ExtractionJobStatus where
  | queued | ingesting | prefiltering | analyzing | deduplicating | merging
  | awaitingReview | published | failed | cancelled
deriving DecidableEq

inductive ReviewDecision where
  | pending | accepted | edited | rejected | merged | split
deriving DecidableEq

inductive AiProvider where
  | anthropic | openai | gemini
deriving DecidableEq

inductive MediaType where
  | image | video | frame | document | audio
deriving DecidableEq

inductive MediaStatus where
  | uploading | processing | ready | failed | quarantined
deriving DecidableEq

structure MediaAsset where
  id : MediaId
  type : MediaType
  status : MediaStatus
  bucket : String
  objectKey : String
  mimeType : Option String
  isTemporary : Bool
deriving DecidableEq

structure ExtractionJob where
  id : JobId
  sourceMediaId : Option MediaId
  status : ExtractionJobStatus
  framesExtracted : Nat
  framesAnalyzed : Nat
  productsFound : Nat
  errorMessage : Option String
  startedAt : Option Instant
  completedAt : Option Instant
deriving DecidableEq

structure ExtractionFrame where
  id : FrameId
  jobId : JobId
  mediaId : Option MediaId
  frameIndex : Nat
  timestampMs : Option Nat
  blurScore : Option ℚ
  barcode : Option String
  providerUsed : Option AiProvider
  confidence : Option ℚ
deriving DecidableEq

structure ExtractionResult where
  id : ResultId
  jobId : JobId
  title : Option String
  priceCents : Option Int
  currency : Option String
  barcode : Option String
  brandGuess : Option String
  categoryGuess : Option String
  overallConfidence : ℚ
  fieldConfidence : Json
  sourceFrameIds : List FrameId
  imageMediaIds : List MediaId
deriving DecidableEq

structure ExtractionReviewItem where
  jobId : JobId
  resultId : ResultId
  decision : ReviewDecision
deriving DecidableEq

/-- The rows of one tenant. -/
structure ExtractionRows where
  jobs : List ExtractionJob
  frames : List ExtractionFrame
  results : List ExtractionResult
  reviewItems : List ExtractionReviewItem
  mediaAssets : List MediaAsset
deriving DecidableEq

structure SourceMedia where
  id : MediaId
  bucket : String
  objectKey : String
  mimeType : Option String
  type : MediaType
deriving DecidableEq

/-- A frame that ffmpeg wrote, or the photo itself, with what the barcode scanner
reads on it and whether its upload succeeds. -/
structure RawFrame where
  timestampMs : Option Nat
  blurScore : Option ℚ
  barcode : Option String
  uploaded : Bool
deriving DecidableEq

structure SampledFrame where
  frameIndex : Nat
  raw : RawFrame
deriving DecidableEq

structure ExtractedProduct where
  title : String
  priceCents : Option Int
  brandGuess : Option String
  categoryGuess : Option String
  overallConfidence : ℚ
  fieldConfidence : Json
  barcode : Option String
  imageUrl : Option String
deriving DecidableEq

/-- What the work between the second and the third transaction comes to:
the products, the note, and the storage key of each image that was fetched. -/
structure Analysis where
  products : List ExtractedProduct
  note : Option String
  imageKeys : List (String × String)
deriving DecidableEq

end Aicos.Extraction
