import Aicos.Extraction.BarcodeHosts

namespace Aicos.Properties

open Aicos.Data Aicos.Extraction Aicos.Extraction.BarcodeHosts

/-! The worker's lookup of a barcode and the API's copy of it. -/

/-- The service as it is without configuration. -/
def defaultLookup (fetch : String → HostReply) : HostLookup where
  enabled := true
  hosts := defaultHosts
  fetch := fetch

/-- Nothing on either path, or one product on both. -/
inductive SameProduct : Option ExtractedProduct → Option BarcodeProduct → Prop where
  | none : SameProduct none none
  | some {found : ExtractedProduct} {shown : BarcodeProduct} (title : found.title = shown.title)
      (brand : found.brandGuess = shown.brand) (category : found.categoryGuess = shown.category)
      (imageUrl : found.imageUrl = shown.imageUrl) : SameProduct (some found) (some shown)

theorem sameProduct_map_shown (found : Option ExtractedProduct) : SameProduct found (found.map shown) := by
  cases found with
  | none => exact .none
  | some product => exact .some rfl rfl rfl rfl

theorem lookupBarcodeProduct_eq (fetch : String → HostReply) (barcode : String) :
    lookupBarcodeProduct fetch barcode =
      (((defaultLookup fetch).lookup barcode).1.map shown, ((defaultLookup fetch).lookup barcode).2) := by
  have on : (defaultLookup fetch).enabled = true ∧ 0 < (defaultLookup fetch).hosts.length := ⟨rfl, Nat.succ_pos _⟩
  rw [lookupBarcodeProduct, HostLookup.lookup, if_neg (not_not.mpr on)]
  dsimp only
  by_cases code : isGtin (trim barcode) = true
  · have again : isProductCode (trim barcode) = true := by rwa [isProductCode, trim_trim]
    rw [if_neg (not_not.mpr again), if_neg (not_not.mpr code)]
    exact askHosts_eq (defaultLookup fetch) (trim barcode) defaultHosts
  · have again : ¬ isProductCode (trim barcode) = true := by rwa [isProductCode, trim_trim]
    rw [if_pos again, if_pos code]
    rfl

/-- However the two databases behave, both lookups ask them alike and come to one product or to none. -/
theorem lookups_agree (fetch : String → HostReply) (barcode : String) :
    SameProduct ((defaultLookup fetch).lookup barcode).1 (lookupBarcodeProduct fetch barcode).1 ∧
      ((defaultLookup fetch).lookup barcode).2 = (lookupBarcodeProduct fetch barcode).2 := by
  rw [lookupBarcodeProduct_eq]
  dsimp only
  exact ⟨sameProduct_map_shown ((defaultLookup fetch).lookup barcode).1, rfl⟩

end Aicos.Properties
