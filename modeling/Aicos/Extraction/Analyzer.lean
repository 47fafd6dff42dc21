import Aicos.Data.Best
import Aicos.Extraction.Barcodes
import Mathlib.Algebra.Order.Ring.Rat
import Mathlib.Data.Rat.Floor

namespace Aicos.Extraction

open Aicos.Data

/-! `ExtractionAnalyzer`: the products that the vision model sees, without
repetitions and with the best first. -/

structure AnalyzeResult where
  products : List ExtractedProduct
  live : Bool
  note : Option String
deriving DecidableEq

def mock : List ExtractedProduct := [
  { title := "Cola Classic 330ml", priceCents := some 149, brandGuess := some "Acme Beverages"
    categoryGuess := some "Drinks", overallConfidence := 23 / 25
    fieldConfidence := .object [
      ("title", .number (19 / 20) "0.95"), ("price", .number (9 / 10) "0.9"), ("brand", .number (4 / 5) "0.8")]
    barcode := none, imageUrl := none },
  { title := "Sparkling Water 500ml", priceCents := some 99, brandGuess := some "Acme Beverages"
    categoryGuess := some "Drinks", overallConfidence := 39 / 50
    fieldConfidence := .object [
      ("title", .number (17 / 20) "0.85"), ("price", .number (7 / 10) "0.7"), ("brand", .number (3 / 5) "0.6")]
    barcode := none, imageUrl := none },
  { title := "Energy Bar Peanut", priceCents := some 249, brandGuess := some "NutriCo"
    categoryGuess := some "Snacks", overallConfidence := 61 / 100
    fieldConfidence := .object [
      ("title", .number (4 / 5) "0.8"), ("price", .number (1 / 2) "0.5"), ("brand", .number (11 / 20) "0.55")]
    barcode := none, imageUrl := none }]

/-- A product code is 6 to 14 digits. -/
def parseBarcode : Json → Option String
  | .number _ text => if isGtin text then some text else none
  | .string text => if isGtin (trim text) then some (trim text) else none
  | _ => none

/-- `Math.round` of a finite number. -/
def parsePrice : Json → Option Int
  | .number value _ => some ⌊value + 1 / 2⌋
  | _ => none

def clamp01 (value : ℚ) : ℚ :=
  max 0 (min 1 value)

def parseConfidence : Json → ℚ
  | .number value _ => clamp01 value
  | .infinity negative => if negative then 0 else 1
  | _ => 1 / 2

/-- An object as it is, which an array is too. -/
def parseFieldConfidence : Json → Json
  | .object fields => .object fields
  | .array items => .array items
  | _ => .object []

def parseGuess : Json → Option String
  | .string text => some text
  | _ => none

def parseProduct (item : Json) : Option ExtractedProduct :=
  match item.field "title" with
  | .string title =>
      if trim title = "" then none
      else some {
        title := title
        priceCents := parsePrice (item.field "priceCents")
        brandGuess := parseGuess (item.field "brand")
        categoryGuess := parseGuess (item.field "category")
        overallConfidence := parseConfidence (item.field "confidence")
        fieldConfidence := parseFieldConfidence (item.field "fieldConfidence")
        barcode := parseBarcode (item.field "barcode")
        imageUrl := none }
  | _ => none

/-- The reply is `none` where it is not JSON. -/
def parseProducts (reply : Option Json) : List ExtractedProduct :=
  ((reply.getD .null).itemsUnder "products").filterMap parseProduct

/-- `title.trim().replace(/\s+/g, ' ')`. -/
def cleanTitle (title : String) : String :=
  String.ofList (collapseSpaces false (trim title).toList)

/-- A product with its title cleaned, unless nothing of it is left. -/
def cleaned (product : ExtractedProduct) : Option ExtractedProduct :=
  if cleanTitle product.title = "" then none else some { product with title := cleanTitle product.title }

section Enrich

variable (toLowerCase : String → String)

def titleKey (product : ExtractedProduct) : String :=
  toLowerCase product.title

/-- The most confident product of every title, and the most confident of these first. -/
def enrichProducts (products : List ExtractedProduct) : List ExtractedProduct :=
  (best (titleKey toLowerCase) ExtractedProduct.overallConfidence (products.filterMap cleaned)).mergeSort
    fun first second => second.overallConfidence ≤ first.overallConfidence

/-- What the model answers, or the message of the error it fails with. -/
abbrev VisionReply := Except String (Option Json)

def analyze (hasModelKey : Bool) (images : Nat) (reply : VisionReply) : AnalyzeResult :=
  if ¬ hasModelKey then
    { products := mock, live := false, note := some "No AI model key configured — showing sample products." }
  else if images = 0 then
    { products := mock, live := false, note := some "No frames to analyze — showing sample products." }
  else
    match reply with
    | .ok reply =>
        let enriched := enrichProducts toLowerCase (parseProducts reply)
        if enriched.length = 0 then
          { products := mock, live := false
            note := some "AI returned no recognizable products — showing sample products." }
        else { products := enriched, live := true, note := none }
    | .error message =>
        { products := mock, live := false
          note := some s!"AI unavailable: {String.ofList (message.toList.take 240)}" }

end Enrich

section Lemmas

variable {toLowerCase : String → String} {product other : ExtractedProduct} {products : List ExtractedProduct}
  {title code : String} {item : Json}

theorem cleanTitle_eq_empty : cleanTitle title = "" ↔ trim title = "" := by
  rw [cleanTitle, String.ofList_eq_empty_iff, collapseSpaces_eq_nil, String.toList_eq_nil_iff]

theorem cleaned_of_trim (left : trim product.title ≠ "") :
    cleaned product = some { product with title := cleanTitle product.title } :=
  if_neg fun blank => left (cleanTitle_eq_empty.mp blank)

theorem cleaned_some (kept : cleaned product = some other) :
    other.barcode = product.barcode ∧ other.overallConfidence = product.overallConfidence ∧
      other.title = cleanTitle product.title := by
  unfold cleaned at kept
  split at kept
  · cases kept
  · obtain rfl := Option.some.inj kept
    exact ⟨rfl, rfl, rfl⟩

theorem cleanTitle_cleanTitle (title : String) : cleanTitle (cleanTitle title) = cleanTitle title := by
  rw [cleanTitle, cleanTitle, trim, trim, String.toList_ofList, String.toList_ofList, String.toList_ofList,
    stripBoth_collapseSpaces, collapseSpaces_idem]

/-- What cleaning leaves it leaves again. -/
theorem cleaned_cleaned (kept : cleaned product = some other) : cleaned other = some other := by
  unfold cleaned at kept ⊢
  split at kept
  · cases kept
  · rename_i left
    obtain rfl := Option.some.inj kept
    dsimp only
    rw [cleanTitle_cleanTitle, if_neg left]

theorem mem_enrichProducts :
    product ∈ enrichProducts toLowerCase products ↔
      FirstBest (titleKey toLowerCase) ExtractedProduct.overallConfidence (products.filterMap cleaned) product := by
  rw [enrichProducts, List.mem_mergeSort, mem_best]

theorem enrichProducts_perm (products : List ExtractedProduct) :
    (enrichProducts toLowerCase products).Perm
      (best (titleKey toLowerCase) ExtractedProduct.overallConfidence (products.filterMap cleaned)) :=
  List.mergeSort_perm _ _

theorem enrichProducts_nodup (products : List ExtractedProduct) :
    ((enrichProducts toLowerCase products).map (titleKey toLowerCase)).Nodup :=
  ((enrichProducts_perm products).map _).nodup_iff.mpr (best_nodup _)

theorem enrichProducts_sorted (products : List ExtractedProduct) :
    (enrichProducts toLowerCase products).Pairwise fun first second =>
      second.overallConfidence ≤ first.overallConfidence := by
  let ahead (first second : ExtractedProduct) : Bool := second.overallConfidence ≤ first.overallConfidence
  have transitive (first second third : ExtractedProduct) (before : ahead first second = true)
      (after : ahead second third = true) : ahead first third = true :=
    decide_eq_true ((of_decide_eq_true after).trans (of_decide_eq_true before))
  have total (first second : ExtractedProduct) : (ahead first second || ahead second first) = true := by
    rw [Bool.or_eq_true, decide_eq_true_iff, decide_eq_true_iff]
    exact le_total _ _
  exact (List.pairwise_mergeSort transitive total _).imp of_decide_eq_true

theorem cleaned_of_mem_enrichProducts (member : product ∈ enrichProducts toLowerCase products) :
    cleaned product = some product := by
  obtain ⟨source, -, kept⟩ := List.mem_filterMap.mp (firstBest_mem (mem_enrichProducts.mp member))
  exact cleaned_cleaned kept

/-- Its own output is clean, without repetitions and in order. -/
theorem enrichProducts_enrichProducts (products : List ExtractedProduct) :
    enrichProducts toLowerCase (enrichProducts toLowerCase products) = enrichProducts toLowerCase products := by
  have clean : (enrichProducts toLowerCase products).filterMap cleaned = enrichProducts toLowerCase products := by
    rw [List.filterMap_congr fun _ => cleaned_of_mem_enrichProducts, List.filterMap_some]
  conv_lhs => rw [enrichProducts, clean, best_of_nodup (enrichProducts_nodup products)]
  exact List.mergeSort_of_pairwise ((enrichProducts_sorted products).imp decide_eq_true)

theorem parseBarcode_some (read : parseBarcode item = some code) : isGtin code = true := by
  unfold parseBarcode at read
  split at read
  · split at read
    · cases read
      assumption
    · cases read
  · split at read
    · cases read
      assumption
    · cases read
  · cases read

theorem parseProduct_barcode (parsed : parseProduct item = some product) (read : product.barcode = some code) :
    isGtin code = true := by
  unfold parseProduct at parsed
  split at parsed
  · split at parsed
    · cases parsed
    · cases parsed
      exact parseBarcode_some read
  · cases parsed

/-- Every barcode that the model is taken to have read is a product code. -/
theorem analyze_barcode {hasModelKey : Bool} {images : Nat} {reply : VisionReply}
    (member : product ∈ (analyze toLowerCase hasModelKey images reply).products)
    (read : product.barcode = some code) : isGtin code = true := by
  have unread : product ∉ mock := by
    intro sample
    simp only [mock, List.mem_cons, List.not_mem_nil, or_false] at sample
    rcases sample with rfl | rfl | rfl <;> cases read
  unfold analyze at member
  split at member
  · exact absurd member unread
  · split at member
    · exact absurd member unread
    · split at member
      · dsimp only at member
        split at member
        · exact absurd member unread
        · obtain ⟨seen, there, kept⟩ := List.mem_filterMap.mp (firstBest_mem (mem_enrichProducts.mp member))
          obtain ⟨item, _, parsed⟩ := List.mem_filterMap.mp there
          exact parseProduct_barcode parsed ((cleaned_some kept).1 ▸ read)
      · exact absurd member unread

end Lemmas

end Aicos.Extraction
