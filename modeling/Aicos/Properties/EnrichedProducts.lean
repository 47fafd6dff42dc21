import Aicos.Extraction.Analyzer

namespace Aicos.Properties

open Aicos.Data Aicos.Extraction

/-! What `enrichProducts` makes of a list of products, and that it leaves its own output
alone. -/

variable (toLowerCase : String → String)

def HasTitle (product : ExtractedProduct) : Prop :=
  trim product.title ≠ ""

/-- The title under which a product is known, up to case. -/
def knownAs (product : ExtractedProduct) : String :=
  toLowerCase (cleanTitle product.title)

/-- The first of the most confident products that have a title, and this title up to case. -/
def Represents (products : List ExtractedProduct) (source : ExtractedProduct) : Prop :=
  HasTitle source ∧ ∃ before after, products = before ++ source :: after ∧
    (∀ other ∈ before, HasTitle other → knownAs toLowerCase other = knownAs toLowerCase source →
      other.overallConfidence < source.overallConfidence) ∧
    ∀ other ∈ after, HasTitle other → knownAs toLowerCase other = knownAs toLowerCase source →
      other.overallConfidence ≤ source.overallConfidence

structure Enriched (products enriched : List ExtractedProduct) : Prop where
  normalized : ∀ product ∈ enriched, product.title ≠ "" ∧ cleanTitle product.title = product.title
  distinct : enriched.Pairwise fun first second => toLowerCase first.title ≠ toLowerCase second.title
  sorted : enriched.Pairwise fun first second => second.overallConfidence ≤ first.overallConfidence
  complete : ∀ product ∈ products, HasTitle product →
    ∃ kept ∈ enriched, toLowerCase kept.title = knownAs toLowerCase product
  sourced : ∀ kept ∈ enriched, ∃ source, Represents toLowerCase products source ∧
    kept = { source with title := cleanTitle source.title }

variable {toLowerCase} {products : List ExtractedProduct} {product kept source : ExtractedProduct}

theorem titleKey_cleanTitle (product : ExtractedProduct) :
    titleKey toLowerCase { product with title := cleanTitle product.title } = knownAs toLowerCase product := rfl

theorem titled_of_cleaned (clean : cleaned source = some kept) :
    HasTitle source ∧ kept = { source with title := cleanTitle source.title } := by
  unfold cleaned at clean
  split at clean
  · cases clean
  · rename_i left
    exact ⟨fun blank => left (cleanTitle_eq_empty.mpr blank), (Option.some.inj clean).symm⟩

/-- The first best of the cleaned products is the cleaned first best. -/
theorem represents_of_firstBest
    (first : FirstBest (titleKey toLowerCase) ExtractedProduct.overallConfidence (products.filterMap cleaned) kept) :
    ∃ source, Represents toLowerCase products source ∧ kept = { source with title := cleanTitle source.title } := by
  obtain ⟨before, after, split, earlier, later⟩ := first
  obtain ⟨left, source, right, rfl, lefts, clean, rights⟩ := filterMap_split split
  obtain ⟨real, rfl⟩ := titled_of_cleaned clean
  refine ⟨source, ⟨real, left, right, rfl, fun other member shown same => ?_, fun other member shown same => ?_⟩, rfl⟩
  · have listed := List.mem_filterMap.mpr ⟨other, member, cleaned_of_trim shown⟩
    rw [lefts] at listed
    have below := earlier _ listed (by rw [titleKey_cleanTitle, titleKey_cleanTitle, same])
    exact below
  · have listed := List.mem_filterMap.mpr ⟨other, member, cleaned_of_trim shown⟩
    rw [rights] at listed
    have below := later _ listed (by rw [titleKey_cleanTitle, titleKey_cleanTitle, same])
    exact below

/-- Of every title the first most confident product is left, the most confident first, and enriching
once more changes nothing. -/
theorem enrichProducts_enriched (toLowerCase : String → String) (products : List ExtractedProduct) :
    Enriched toLowerCase products (enrichProducts toLowerCase products) ∧
      enrichProducts toLowerCase (enrichProducts toLowerCase products) = enrichProducts toLowerCase products := by
  refine ⟨?_, enrichProducts_enrichProducts products⟩
  constructor
  · intro product member
    have clean := cleaned_of_mem_enrichProducts member
    obtain ⟨-, -, title⟩ := cleaned_some clean
    refine ⟨fun blank => (titled_of_cleaned clean).1 ?_, title.symm⟩
    rw [← cleanTitle_eq_empty, ← title, blank]
  · exact List.pairwise_map.mp (enrichProducts_nodup products)
  · exact enrichProducts_sorted products
  · intro product member real
    have listed : { product with title := cleanTitle product.title } ∈ products.filterMap cleaned :=
      List.mem_filterMap.mpr ⟨product, member, cleaned_of_trim real⟩
    have ⟨kept, first, same⟩ : ∃ kept, FirstBest (titleKey toLowerCase) ExtractedProduct.overallConfidence
        (products.filterMap cleaned) kept ∧ titleKey toLowerCase kept =
          titleKey toLowerCase { product with title := cleanTitle product.title } := firstBest_exists listed
    exact ⟨kept, mem_enrichProducts.mpr first, same.trans (titleKey_cleanTitle product)⟩
  · intro kept member
    exact represents_of_firstBest (mem_enrichProducts.mp member)

end Aicos.Properties
