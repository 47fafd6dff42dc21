import Aicos.Extraction.Analyzer

namespace Aicos.Extraction

open Aicos.Data

/-! The work of `ExtractionProcessor.process` between its second and its third
transaction: what the product databases know of a barcode takes the place of what
the model has made of it. -/

/-- What the scanner decodes in each frame, and what the models and the product
databases answer.  `stored` says of an image URL whether it is fetched and uploaded. -/
structure Reading where
  decoded : List (Option String)
  hasModelKey : Bool
  finder : Option Json
  vision : VisionReply
  barcodeLookup : BarcodeLookupService
  stored : String → Bool

/-- `imageKeyByUrl`. -/
def imageKeys (jobId : JobId) (bucket : Option String) (stored : String → Bool) (products : List ExtractedProduct) :
    List (String × String) :=
  match bucket with
  | none => []
  | some _ => ((products.filterMap fun product => product.imageUrl.bind nonEmpty).eraseDups).foldl
      (fun keys url => if stored url then keys ++ [(url, s!"extractions/{jobId}/product_{keys.length}.jpg")] else keys) []

namespace Reading

def barcodeHints (reading : Reading) : List String :=
  (reading.decoded.filterMap scan).eraseDups

def aiBarcodes (reading : Reading) : List String :=
  if ¬ reading.hasModelKey ∨ reading.decoded.length = 0 then [] else parseBarcodes reading.finder

def seedBarcodes (reading : Reading) : List String :=
  (reading.barcodeHints ++ reading.aiBarcodes).eraseDups

variable (toLowerCase : String → String)

def analyzed (reading : Reading) : AnalyzeResult :=
  analyze toLowerCase reading.hasModelKey reading.decoded.length reading.vision

def visionProducts (reading : Reading) : List ExtractedProduct :=
  if (reading.analyzed toLowerCase).live then (reading.analyzed toLowerCase).products else []

def allBarcodes (reading : Reading) : List String :=
  (reading.seedBarcodes ++ (reading.visionProducts toLowerCase).filterMap (·.barcode)).eraseDups

/-- `lookupByBarcode`, in the order in which the barcodes are looked up. -/
def lookupByBarcode (reading : Reading) : List (String × ExtractedProduct) :=
  (reading.allBarcodes toLowerCase).filterMap fun code =>
    (reading.barcodeLookup.lookup code).map fun looked => (code, looked)

def correct (reading : Reading) (product : ExtractedProduct) : ExtractedProduct :=
  ((product.barcode.bind nonEmpty).bind fun code => (reading.lookupByBarcode toLowerCase).lookup code).getD product

def corrected (reading : Reading) : List ExtractedProduct :=
  (reading.visionProducts toLowerCase).map (reading.correct toLowerCase)

/-- The lookups of barcodes that the model has not read. -/
def standalone (reading : Reading) : List ExtractedProduct :=
  ((reading.lookupByBarcode toLowerCase).filter fun entry =>
    some entry.1 ∉ (reading.visionProducts toLowerCase).map (·.barcode)).map (·.2)

def realProducts (reading : Reading) : List ExtractedProduct :=
  reading.standalone toLowerCase ++ reading.corrected toLowerCase

def products (reading : Reading) : List ExtractedProduct :=
  if (reading.realProducts toLowerCase).length > 0 then enrichProducts toLowerCase (reading.realProducts toLowerCase)
  else (reading.analyzed toLowerCase).products

def analysis (reading : Reading) (jobId : JobId) (bucket : Option String) : Analysis where
  products := reading.products toLowerCase
  note := if (reading.realProducts toLowerCase).length > 0 then none else (reading.analyzed toLowerCase).note
  imageKeys := imageKeys jobId bucket reading.stored (reading.products toLowerCase)

section Lookups

variable {toLowerCase} {reading : Reading} {code : String} {product looked : ExtractedProduct}

theorem mem_barcodeHints (hint : code ∈ reading.barcodeHints) : trim code = code := by
  obtain ⟨decoded, _, read⟩ := List.mem_filterMap.mp (List.mem_eraseDups.mp hint)
  obtain ⟨same, _⟩ := Option.filter_eq_some_iff.mp read
  obtain ⟨text, _, rfl⟩ := Option.map_eq_some_iff.mp same
  exact trim_trim text

theorem mem_aiBarcodes (found : code ∈ reading.aiBarcodes) : trim code = code := by
  unfold aiBarcodes at found
  split at found
  · cases found
  · exact trim_of_isGtin (List.mem_filter.mp (List.mem_eraseDups.mp found)).2

theorem visionProducts_barcode (member : product ∈ reading.visionProducts toLowerCase)
    (read : product.barcode = some code) : isGtin code = true := by
  unfold visionProducts at member
  split at member
  · exact analyze_barcode member read
  · cases member

theorem trim_of_mem_allBarcodes (member : code ∈ reading.allBarcodes toLowerCase) : trim code = code := by
  rcases List.mem_append.mp (List.mem_eraseDups.mp member) with seed | seen
  · rcases List.mem_append.mp (List.mem_eraseDups.mp seed) with hint | found
    · exact mem_barcodeHints hint
    · exact mem_aiBarcodes found
  · obtain ⟨product, there, read⟩ := List.mem_filterMap.mp seen
    exact trim_of_isGtin (visionProducts_barcode there read)

theorem mem_lookupByBarcode :
    (code, looked) ∈ reading.lookupByBarcode toLowerCase ↔
      code ∈ reading.allBarcodes toLowerCase ∧ reading.barcodeLookup.lookup code = some looked := by
  rw [lookupByBarcode, List.mem_filterMap]
  constructor
  · intro given
    obtain ⟨code, member, found⟩ := given
    obtain ⟨looked, there, same⟩ := Option.map_eq_some_iff.mp found
    cases same
    exact ⟨member, there⟩
  · intro given
    obtain ⟨member, found⟩ := given
    exact ⟨code, member, by rw [found, Option.map_some]⟩

/-- What a lookup finds carries the barcode it was looked up by, and a title. -/
theorem lookupByBarcode_product (resolved : (code, looked) ∈ reading.lookupByBarcode toLowerCase) :
    looked.barcode = some code ∧ looked.overallConfidence = gtinConfidence ∧ trim looked.title ≠ "" ∧ code ≠ "" := by
  obtain ⟨member, found⟩ := mem_lookupByBarcode.mp resolved
  obtain ⟨accepted, barcode, confidence, titled, trimmed⟩ := lookup_some found
  rw [trim_of_mem_allBarcodes member] at accepted barcode
  refine ⟨barcode, confidence, trimmed.symm ▸ titled, ?_⟩
  rintro rfl
  exact absurd accepted (by decide)

theorem lookupByBarcode_unique {other : ExtractedProduct}
    (resolved : (code, looked) ∈ reading.lookupByBarcode toLowerCase)
    (again : (code, other) ∈ reading.lookupByBarcode toLowerCase) : other = looked :=
  Option.some.inj ((mem_lookupByBarcode.mp again).2.symm.trans (mem_lookupByBarcode.mp resolved).2)

theorem lookup_lookupByBarcode :
    (reading.lookupByBarcode toLowerCase).lookup code = some looked ↔
      (code, looked) ∈ reading.lookupByBarcode toLowerCase := by
  constructor
  · intro found
    obtain ⟨before, after, split, _⟩ := List.lookup_eq_some_iff.mp found
    simp [split]
  · intro resolved
    cases found : (reading.lookupByBarcode toLowerCase).lookup code with
    | none =>
        have apart := List.lookup_eq_none_iff.mp found _ resolved
        simp at apart
    | some other =>
        obtain ⟨before, after, split, _⟩ := List.lookup_eq_some_iff.mp found
        have again : (code, other) ∈ reading.lookupByBarcode toLowerCase := by simp [split]
        rw [lookupByBarcode_unique resolved again]

/-- A barcode of a vision product that a lookup resolves brings the lookup in its place. -/
theorem correct_of_resolved (read : product.barcode = some code)
    (resolved : (code, looked) ∈ reading.lookupByBarcode toLowerCase) :
    reading.correct toLowerCase product = looked := by
  have filled : nonEmpty code = some code := if_neg (lookupByBarcode_product resolved).2.2.2
  rw [correct, read, Option.bind_some, filled, Option.bind_some, lookup_lookupByBarcode.mpr resolved, Option.getD_some]

theorem correct_cases (reading : Reading) (product : ExtractedProduct) :
    (∃ code, product.barcode = some code ∧
        (code, reading.correct toLowerCase product) ∈ reading.lookupByBarcode toLowerCase) ∨
      (reading.correct toLowerCase product = product ∧
        ∀ code looked, product.barcode = some code → (code, looked) ∉ reading.lookupByBarcode toLowerCase) := by
  by_cases resolved : ∃ code looked, product.barcode = some code ∧ (code, looked) ∈ reading.lookupByBarcode toLowerCase
  · obtain ⟨code, looked, read, found⟩ := resolved
    exact .inl ⟨code, read, correct_of_resolved read found ▸ found⟩
  · refine .inr ⟨?_, fun code looked read found => resolved ⟨code, looked, read, found⟩⟩
    rw [correct]
    cases found : (product.barcode.bind nonEmpty).bind fun code => (reading.lookupByBarcode toLowerCase).lookup code with
    | none => rfl
    | some looked =>
        obtain ⟨code, read, there⟩ := Option.bind_eq_some_iff.mp found
        obtain ⟨text, known, filled⟩ := Option.bind_eq_some_iff.mp read
        have same : text = code := by
          unfold nonEmpty at filled
          split at filled
          · cases filled
          · exact Option.some.inj filled
        exact absurd ⟨code, looked, same ▸ known, lookup_lookupByBarcode.mp there⟩ resolved

theorem correct_of_unresolved
    (unresolved : ∀ code looked, product.barcode = some code → (code, looked) ∉ reading.lookupByBarcode toLowerCase) :
    reading.correct toLowerCase product = product := by
  rcases reading.correct_cases product with ⟨code, read, found⟩ | ⟨same, _⟩
  · exact absurd found (unresolved code _ read)
  · exact same

theorem mem_standalone :
    product ∈ reading.standalone toLowerCase ↔
      ∃ code, (code, product) ∈ reading.lookupByBarcode toLowerCase ∧
        ∀ seen ∈ reading.visionProducts toLowerCase, seen.barcode ≠ some code := by
  rw [standalone, List.mem_map]
  constructor
  · rintro ⟨⟨code, looked⟩, member, rfl⟩
    obtain ⟨resolved, unseen⟩ := List.mem_filter.mp member
    refine ⟨code, resolved, fun seen there read => ?_⟩
    exact of_decide_eq_true unseen (List.mem_map.mpr ⟨seen, there, read⟩)
  · intro given
    obtain ⟨code, resolved, unseen⟩ := given
    refine ⟨(code, product), List.mem_filter.mpr ⟨resolved, decide_eq_true fun seen => ?_⟩, rfl⟩
    obtain ⟨other, there, read⟩ := List.mem_map.mp seen
    exact unseen other there read

/-- Before titles are compared, no resolved barcode is lost. -/
theorem mem_realProducts (resolved : (code, looked) ∈ reading.lookupByBarcode toLowerCase) :
    looked ∈ reading.realProducts toLowerCase := by
  by_cases seen : ∃ product ∈ reading.visionProducts toLowerCase, product.barcode = some code
  · obtain ⟨product, member, read⟩ := seen
    exact List.mem_append_right _ (List.mem_map.mpr ⟨product, member, correct_of_resolved read resolved⟩)
  · refine List.mem_append_left _ (mem_standalone.mpr ⟨code, resolved, fun product member read => ?_⟩)
    exact seen ⟨product, member, read⟩

end Lookups

end Reading

end Aicos.Extraction
