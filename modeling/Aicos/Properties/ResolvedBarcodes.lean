import Aicos.Extraction.Merging
import Aicos.Extraction.Processor

namespace Aicos.Properties

open Aicos.Data Aicos.Extraction

/-! Whether a barcode that a lookup has resolved reaches the review.  Titles are
compared last, and a product that loses there takes its barcode with it. -/

variable (toLowerCase : String → String)

/-- Both products have a title, and it is the same one once blanks and case are aside. -/
def SameTitle (first second : ExtractedProduct) : Prop :=
  ∃ left right, cleaned first = some left ∧ cleaned second = some right ∧
    titleKey toLowerCase left = titleKey toLowerCase right

/-- No lookup shares its title with a product that is preferred to it: neither with
another lookup nor with a product of the model that is more confident, or as
confident and earlier. -/
structure Unrivalled (reading : Reading) : Prop where
  lookups : ∀ code looked other found, (code, looked) ∈ reading.lookupByBarcode toLowerCase →
    (other, found) ∈ reading.lookupByBarcode toLowerCase → SameTitle toLowerCase looked found → code = other
  seen : ∀ code looked before rival after, (code, looked) ∈ reading.lookupByBarcode toLowerCase →
    reading.visionProducts toLowerCase = before ++ rival :: after → SameTitle toLowerCase rival looked →
    (∀ other found, rival.barcode = some other → (other, found) ∉ reading.lookupByBarcode toLowerCase) →
    rival.overallConfidence < gtinConfidence ∨ rival.overallConfidence = gtinConfidence ∧
      ((∀ product ∈ reading.visionProducts toLowerCase, product.barcode ≠ some code) ∨
        ∃ product ∈ before, product.barcode = some code)

variable {toLowerCase} {reading : Reading} {code : String} {looked product : ExtractedProduct}

/-- The product of a resolved barcode as the comparison of titles sees it. -/
def withCleanTitle (product : ExtractedProduct) : ExtractedProduct :=
  { product with title := cleanTitle product.title }

/-- The first of the most confident real products of its title, which `enrichProducts` keeps. -/
def Leads (toLowerCase : String → String) (reading : Reading) (product : ExtractedProduct) : Prop :=
  FirstBest (titleKey toLowerCase) ExtractedProduct.overallConfidence
    ((reading.realProducts toLowerCase).filterMap cleaned) product

theorem withCleanTitle_barcode (product : ExtractedProduct) : (withCleanTitle product).barcode = product.barcode := by
  cases product
  rfl

theorem withCleanTitle_confidence (product : ExtractedProduct) :
    (withCleanTitle product).overallConfidence = product.overallConfidence := by
  cases product
  rfl

theorem cleaned_eq {other : ExtractedProduct} (kept : cleaned product = some other) :
    other = withCleanTitle product := by
  unfold cleaned at kept
  split at kept
  · cases kept
  · exact (Option.some.inj kept).symm

theorem cleaned_looked (resolved : (code, looked) ∈ reading.lookupByBarcode toLowerCase) :
    cleaned looked = some (withCleanTitle looked) :=
  cleaned_of_trim (Reading.lookupByBarcode_product resolved).2.2.1

/-- A real product is the lookup of its barcode, or one of the model's that no lookup resolves. -/
theorem realProducts_cases (member : product ∈ reading.realProducts toLowerCase) :
    (∃ code, (code, product) ∈ reading.lookupByBarcode toLowerCase) ∨
      (product ∈ reading.visionProducts toLowerCase ∧
        ∀ code looked, product.barcode = some code → (code, looked) ∉ reading.lookupByBarcode toLowerCase) := by
  rcases List.mem_append.mp member with alone | corrected
  · obtain ⟨code, resolved, _⟩ := Reading.mem_standalone.mp alone
    exact .inl ⟨code, resolved⟩
  · obtain ⟨seen, there, rfl⟩ := List.mem_map.mp corrected
    rcases reading.correct_cases seen with ⟨code, _, resolved⟩ | ⟨same, unresolved⟩
    · exact .inl ⟨code, resolved⟩
    · rw [same]
      exact .inr ⟨there, unresolved⟩

/-- Only its lookup carries a resolved barcode. -/
theorem realProducts_barcode (resolved : (code, looked) ∈ reading.lookupByBarcode toLowerCase)
    (member : product ∈ reading.realProducts toLowerCase) (read : product.barcode = some code) : product = looked := by
  rcases realProducts_cases member with ⟨other, found⟩ | ⟨_, unresolved⟩
  · have same : other = code := by
      rw [(Reading.lookupByBarcode_product found).1] at read
      exact Option.some.inj read
    exact Reading.lookupByBarcode_unique resolved (same ▸ found)
  · exact absurd resolved (unresolved code looked read)

/-- Keeping the barcode of a lookup comes down to keeping the lookup. -/
theorem kept_iff_leads (resolved : (code, looked) ∈ reading.lookupByBarcode toLowerCase) :
    (∃ product ∈ reading.products toLowerCase, product.barcode = some code) ↔
      Leads toLowerCase reading (withCleanTitle looked) := by
  have real : 0 < (reading.realProducts toLowerCase).length :=
    List.length_pos_of_mem (Reading.mem_realProducts resolved)
  rw [Reading.products, if_pos real]
  constructor
  · intro given
    obtain ⟨product, member, read⟩ := given
    have first := mem_enrichProducts.mp member
    obtain ⟨raw, there, kept⟩ := List.mem_filterMap.mp (firstBest_mem first)
    obtain rfl := cleaned_eq kept
    rw [withCleanTitle_barcode] at read
    rw [← realProducts_barcode resolved there read]
    exact first
  · intro first
    refine ⟨withCleanTitle looked, mem_enrichProducts.mpr first, ?_⟩
    rw [withCleanTitle_barcode]
    exact (Reading.lookupByBarcode_product resolved).1

theorem mem_cleaned {products : List ExtractedProduct} {other : ExtractedProduct} (member : product ∈ products)
    (kept : cleaned product = some other) : other ∈ products.filterMap cleaned :=
  List.mem_filterMap.mpr ⟨product, member, kept⟩

/-- A lookup that a product of the model precedes stands before it in the list too. -/
theorem looked_before {before after left right : List ExtractedProduct} {rival : ExtractedProduct}
    (resolved : (code, looked) ∈ reading.lookupByBarcode toLowerCase)
    (order : reading.visionProducts toLowerCase = before ++ rival :: after)
    (unresolved : ∀ other found, rival.barcode = some other → (other, found) ∉ reading.lookupByBarcode toLowerCase)
    (split : reading.realProducts toLowerCase = left ++ looked :: right) (absent : rival ∉ left) :
    (∀ product ∈ reading.visionProducts toLowerCase, product.barcode ≠ some code) ∨
      ∃ product ∈ before, product.barcode = some code := by
  have barcode := (Reading.lookupByBarcode_product resolved).1
  have apart : rival ≠ looked := by
    rintro rfl
    exact unresolved code rival barcode resolved
  have same : reading.correct toLowerCase rival = rival := Reading.correct_of_unresolved unresolved
  have listed : reading.realProducts toLowerCase =
      (reading.standalone toLowerCase ++ before.map (reading.correct toLowerCase)) ++
        rival :: after.map (reading.correct toLowerCase) := by
    rw [Reading.realProducts, Reading.corrected, order, List.map_append, List.map_cons, same, List.append_assoc]
  rcases append_split (listed.symm.trans split) with member | ⟨between, rfl, rest⟩
  · rcases List.mem_append.mp member with alone | corrected
    · obtain ⟨other, found, unseen⟩ := Reading.mem_standalone.mp alone
      obtain rfl : other = code :=
        Option.some.inj ((Reading.lookupByBarcode_product found).1.symm.trans barcode)
      exact .inl unseen
    · obtain ⟨product, there, rfl⟩ := List.mem_map.mp corrected
      refine .inr ⟨product, there, ?_⟩
      rcases reading.correct_cases product with ⟨other, read, found⟩ | ⟨same, _⟩
      · rw [read, ← barcode, (Reading.lookupByBarcode_product found).1]
      · exact same ▸ barcode
  · cases between with
    | nil => exact absurd (List.cons.inj rest).1 apart
    | cons next others =>
        obtain ⟨rfl, _⟩ := List.cons.inj rest
        exact absurd (by simp) absent

theorem unrivalled_of_leads
    (kept : ∀ code looked, (code, looked) ∈ reading.lookupByBarcode toLowerCase →
      Leads toLowerCase reading (withCleanTitle looked)) :
    Unrivalled toLowerCase reading := by
  constructor
  · intro code looked other found resolved again given
    obtain ⟨first, second, left, right, same⟩ := given
    obtain rfl := cleaned_eq left
    obtain rfl := cleaned_eq right
    have equal := firstBest_unique (kept code looked resolved) (kept other found again) same
    have barcodes := congrArg ExtractedProduct.barcode equal
    rw [withCleanTitle_barcode, withCleanTitle_barcode, (Reading.lookupByBarcode_product resolved).1,
      (Reading.lookupByBarcode_product again).1] at barcodes
    exact Option.some.inj barcodes
  · intro code looked before rival after resolved order given unresolved
    obtain ⟨first, second, left, right, same⟩ := given
    obtain rfl := cleaned_eq right
    have confidence := (Reading.lookupByBarcode_product resolved).2.1
    have best := kept code looked resolved
    have real : rival ∈ reading.realProducts toLowerCase :=
      List.mem_append_right _ (List.mem_map.mpr
        ⟨rival, by simp [order], Reading.correct_of_unresolved unresolved⟩)
    have bound := firstBest_dominates best first (mem_cleaned real left) same
    rw [withCleanTitle_confidence, confidence, (cleaned_some left).2.1] at bound
    rcases lt_or_eq_of_le bound with less | equal
    · exact .inl less
    · refine .inr ⟨equal, ?_⟩
      obtain ⟨earlier, later, split, strict, _⟩ := best
      obtain ⟨sources, source, rest, listed, mapped, raw, -⟩ := filterMap_split split
      have read : source.barcode = some code := by
        rw [← (cleaned_some raw).1, withCleanTitle_barcode]
        exact (Reading.lookupByBarcode_product resolved).1
      obtain rfl := realProducts_barcode resolved (by simp [listed]) read
      refine looked_before resolved order unresolved listed fun inside => ?_
      have below := strict first (mapped ▸ mem_cleaned inside left) same
      rw [withCleanTitle_confidence, confidence, (cleaned_some left).2.1, equal] at below
      exact lt_irrefl _ below

/-- A product of the model that shares the title and is no less confident is as confident,
and the lookup stands before it. -/
theorem looked_before_seen {before after : List ExtractedProduct} {rival : ExtractedProduct}
    (unrivalled : Unrivalled toLowerCase reading) (resolved : (code, looked) ∈ reading.lookupByBarcode toLowerCase)
    (order : reading.visionProducts toLowerCase = before ++ rival :: after)
    (rivals : SameTitle toLowerCase rival looked)
    (unresolved : ∀ other found, rival.barcode = some other → (other, found) ∉ reading.lookupByBarcode toLowerCase)
    (bound : gtinConfidence ≤ rival.overallConfidence) :
    rival.overallConfidence = gtinConfidence ∧
      looked ∈ reading.standalone toLowerCase ++ before.map (reading.correct toLowerCase) := by
  rcases unrivalled.seen code looked before rival after resolved order rivals unresolved with
    less | ⟨equal, unseen | ⟨product, there, read⟩⟩
  · exact absurd bound (not_le.mpr less)
  · exact ⟨equal, List.mem_append_left _ (Reading.mem_standalone.mpr ⟨code, resolved, unseen⟩)⟩
  · have corrected : looked ∈ before.map (reading.correct toLowerCase) :=
      List.mem_map.mpr ⟨product, there, Reading.correct_of_resolved read resolved⟩
    exact ⟨equal, List.mem_append_right _ corrected⟩

theorem leads_of_unrivalled (unrivalled : Unrivalled toLowerCase reading)
    (resolved : (code, looked) ∈ reading.lookupByBarcode toLowerCase) :
    Leads toLowerCase reading (withCleanTitle looked) := by
  have clean := cleaned_looked resolved
  have confidence := (Reading.lookupByBarcode_product resolved).2.1
  obtain ⟨value, first, same⟩ : ∃ value, Leads toLowerCase reading value ∧
      titleKey toLowerCase value = titleKey toLowerCase (withCleanTitle looked) :=
    firstBest_exists (mem_cleaned (Reading.mem_realProducts resolved) clean)
  have bound := firstBest_dominates first _ (mem_cleaned (Reading.mem_realProducts resolved) clean) same.symm
  obtain ⟨earlier, later, split, strict, rest⟩ := first
  obtain ⟨sources, source, right, listed, mapped, raw, -⟩ := filterMap_split split
  rw [withCleanTitle_confidence, confidence, (cleaned_some raw).2.1] at bound
  have title : SameTitle toLowerCase looked source := ⟨_, _, clean, raw, same.symm⟩
  -- another lookup has another title, and a product of the model is worse or later
  have looks {other : String} (found : (other, source) ∈ reading.lookupByBarcode toLowerCase) :
      value = withCleanTitle looked := by
    obtain rfl := unrivalled.lookups code looked other source resolved found title
    rw [← Reading.lookupByBarcode_unique resolved found]
    exact cleaned_eq raw
  have final : value = withCleanTitle looked := by
    rcases append_split listed with alone | ⟨before, rfl, placed⟩
    · obtain ⟨other, found, _⟩ := Reading.mem_standalone.mp alone
      exact looks found
    · obtain ⟨seen, others, order, rfl, later⟩ := List.map_eq_append_iff.mp placed
      obtain ⟨rival, after, rfl, corrected, _⟩ := List.map_eq_cons_iff.mp later
      rcases reading.correct_cases rival with ⟨other, _, found⟩ | ⟨unchanged, unresolved⟩
      · exact looks (corrected ▸ found)
      · obtain rfl : rival = source := unchanged.symm.trans corrected
        obtain ⟨equal, member⟩ :=
          looked_before_seen unrivalled resolved order ⟨_, _, raw, clean, same⟩ unresolved bound
        have inside : withCleanTitle looked ∈ earlier := mapped ▸ mem_cleaned member clean
        have below := strict _ inside same.symm
        rw [withCleanTitle_confidence, confidence, (cleaned_some raw).2.1, equal] at below
        exact absurd below (lt_irrefl _)
  exact final ▸ ⟨earlier, later, split, strict, rest⟩

/-- The results of a run carry the barcodes of its products. -/
theorem newResults_barcode (analysis : Analysis) (jobId : JobId) (bucket : Option String) (frameIds : List FrameId)
    (ids : DrawnIds) (code : String) :
    (∃ result ∈ newResults jobId bucket frameIds analysis ids, result.barcode = some code) ↔
      ∃ product ∈ analysis.products, product.barcode = some code := by
  constructor
  · intro given
    obtain ⟨result, member, read⟩ := given
    obtain ⟨index, bound, rfl⟩ := List.mem_mapIdx.mp member
    exact ⟨_, List.getElem_mem bound, read⟩
  · intro given
    obtain ⟨product, member, read⟩ := given
    obtain ⟨index, bound, rfl⟩ := List.mem_iff_getElem.mp member
    exact ⟨_, List.mem_mapIdx.mpr ⟨index, bound, rfl⟩, read⟩

/-- Every barcode that a lookup has resolved is the barcode of a result of the run. -/
def KeepsResolved (toLowerCase : String → String) (reading : Reading) (jobId : JobId) (bucket : Option String)
    (frameIds : List FrameId) (ids : DrawnIds) : Prop :=
  ∀ code looked, (code, looked) ∈ reading.lookupByBarcode toLowerCase →
    ∃ result ∈ newResults jobId bucket frameIds (reading.analysis toLowerCase jobId bucket) ids,
      result.barcode = some code

theorem unrivalled_of_keepsResolved {jobId : JobId} {bucket : Option String} {frameIds : List FrameId} {ids : DrawnIds}
    (keeps : KeepsResolved toLowerCase reading jobId bucket frameIds ids) : Unrivalled toLowerCase reading := by
  refine unrivalled_of_leads fun code looked resolved => (kept_iff_leads resolved).mp ?_
  exact (newResults_barcode _ jobId bucket frameIds ids code).mp (keeps code looked resolved)

/-- No resolved barcode is lost exactly when no lookup has a rival of the same title. -/
theorem keepsResolved_iff_unrivalled (toLowerCase : String → String) (reading : Reading) (jobId : JobId)
    (bucket : Option String) (frameIds : List FrameId) (ids : DrawnIds) :
    KeepsResolved toLowerCase reading jobId bucket frameIds ids ↔ Unrivalled toLowerCase reading := by
  refine ⟨unrivalled_of_keepsResolved, fun unrivalled code looked resolved => ?_⟩
  have kept := (kept_iff_leads resolved).mpr (leads_of_unrivalled unrivalled resolved)
  exact (newResults_barcode _ jobId bucket frameIds ids code).mpr kept

/-- The databases know a bottle of two sizes, with a barcode each and one name. -/
def twoBottles : Reading where
  decoded := [some "5449000000996", some "5449000131805"]
  hasModelKey := false
  finder := none
  vision := .ok none
  barcodeLookup := {
    enabled := true
    hosts := ["https://world.openfoodfacts.org"]
    fetch := fun _ _ => some (.object [("status", .number 1 "1"),
      ("product", .object [("product_name", .string "Coca-Cola")])]) }
  stored := fun _ => false

def bottle (code : String) : ExtractedProduct where
  title := "Coca-Cola"
  priceCents := none
  brandGuess := none
  categoryGuess := none
  overallConfidence := gtinConfidence
  fieldConfidence := .object [("title", .number (19 / 20) "0.95"), ("brand", .number (9 / 10) "0.9")]
  barcode := some code
  imageUrl := none

theorem mem_twoBottles {code : String} (listed : code ∈ ["5449000000996", "5449000131805"]) :
    (code, bottle code) ∈ twoBottles.lookupByBarcode id := by
  have read : twoBottles.allBarcodes id = ["5449000000996", "5449000131805"] := by decide
  refine Reading.mem_lookupByBarcode.mpr ⟨read ▸ listed, ?_⟩
  simp only [List.mem_cons, List.not_mem_nil, or_false] at listed
  rcases listed with rfl | rfl <;> rfl

/-- The second bottle has the title of the first, so its barcode is lost. -/
theorem twoBottles_loses_barcode :
    ¬ ∀ toLowerCase reading jobId bucket frameIds ids, KeepsResolved toLowerCase reading jobId bucket frameIds ids := by
  intro always
  have unrivalled := unrivalled_of_keepsResolved (always id twoBottles 1 none [] ⟨1, 1⟩)
  have first := mem_twoBottles List.mem_cons_self
  have second := mem_twoBottles (List.mem_cons_of_mem _ List.mem_cons_self)
  have title : SameTitle id (bottle "5449000000996") (bottle "5449000131805") :=
    ⟨_, _, cleaned_looked first, cleaned_looked second, rfl⟩
  exact absurd (unrivalled.lookups _ _ _ _ first second title) (by decide)

end Aicos.Properties
