import Aicos.Data.Json
import Aicos.Data.Text
import Aicos.Extraction.Schema

namespace Aicos.Extraction

open Aicos.Data

/-! Barcodes: what the scanner and the finder read, and what the open product
databases make of them. -/

/-- `/^\d{6,14}$/`. -/
def isGtin (text : String) : Bool :=
  6 ≤ text.toList.length ∧ text.toList.length ≤ 14 ∧ text.toList.all Char.isDigit

/-- `BarcodeScannerService.scan`, after the decoding of the frame. -/
def scan (decoded : Option String) : Option String :=
  (decoded.map trim).filter (· ≠ "")

/-- `String(v).replace(/\D/g, '')` of a number or a text. -/
def digits : Json → String
  | .string text | .number _ text => String.ofList (text.toList.filter Char.isDigit)
  | _ => ""

/-- `BarcodeFinderService.find`; the reply is `none` where there is none or it is not JSON. -/
def parseBarcodes (reply : Option Json) : List String :=
  (((((reply.getD .null).itemsUnder "barcodes").map digits)).filter isGtin).eraseDups

/-- `fetch` is the JSON that a host replies to a code, unless the request fails,
is not OK or not JSON. -/
structure BarcodeLookupService where
  enabled : Bool
  hosts : List String
  fetch : String → String → Option Json

/-- `text || null`. -/
def nonEmpty (text : String) : Option String :=
  if text = "" then none else some text

def firstToken (list : Option String) : Option String :=
  list.bind fun text => nonEmpty (trim (String.ofList ((text.toList.splitOn ',').headD [])))

/-- `.replace(/^[a-z]{2}:/, '')`. -/
def withoutLanguage : List Char → List Char
  | first :: second :: ':' :: rest =>
      if ('a' ≤ first ∧ first ≤ 'z') ∧ ('a' ≤ second ∧ second ≤ 'z') then rest else first :: second :: ':' :: rest
  | chars => chars

def lastCategory (list : Option String) : Option String :=
  let parts := ((list.getD "").toList.splitOn ',').map (stripBoth isSpace)
  (parts.filter (· ≠ [])).getLast?.map fun last => String.ofList (withoutLanguage last)

/-- The confidence of an exact GTIN match. -/
def gtinConfidence : ℚ := 19 / 20

/-- The first truthy image; `none` where it is not a text, and the code throws. -/
def imageUrl (product : Json) : Option (Option String) :=
  let frontImage := product.field "image_front_url"
  let image := if frontImage.truthy then frontImage else product.field "image_url"
  if image.truthy then image.optionalText else some none

/-- The product of a reply with a status and a title; `none` where the code throws. -/
def resolvedProduct (code title : String) (product : Json) : Option ExtractedProduct := do
  let image ← imageUrl product
  let brands ← (product.field "brands").optionalText
  let categories ← (product.field "categories").optionalText
  return {
    title := title
    priceCents := none
    brandGuess := firstToken brands
    categoryGuess := lastCategory categories
    overallConfidence := gtinConfidence
    fieldConfidence := .object [("title", .number (19 / 20) "0.95"), ("brand", .number (9 / 10) "0.9")]
    barcode := some code
    imageUrl := image.filter fun url => url.startsWith "http" }

namespace BarcodeLookupService

def queryHost (service : BarcodeLookupService) (host code : String) : Option ExtractedProduct :=
  (service.fetch host code).bind fun reply =>
    match reply.field "status", (reply.field "product").field "product_name" with
    | .number status _, .string name =>
        if status ≠ 1 ∨ trim name = "" then none
        else resolvedProduct code (trim name) (reply.field "product")
    | _, _ => none

def lookup (service : BarcodeLookupService) (barcode : String) : Option ExtractedProduct :=
  let code := trim barcode
  if ¬ service.enabled then none
  else if ¬ isGtin code then none
  else service.hosts.findSome? fun host => service.queryHost host code

end BarcodeLookupService

section Lookup

variable {service : BarcodeLookupService} {host text code title : String} {data : Json} {product : ExtractedProduct}

theorem isSpace_of_isDigit {char : Char} (digit : char.isDigit = true) : isSpace char = false := by
  have range : 48 ≤ char.val.toNat ∧ char.val.toNat ≤ 57 := by
    simp only [Char.isDigit, Bool.and_eq_true, decide_eq_true_eq, ge_iff_le, UInt32.le_iff_toNat_le] at digit
    exact digit
  have low : ¬ char.val ≤ '\r'.val := by
    rw [UInt32.le_iff_toNat_le]
    have bound : '\r'.val.toNat = 13 := rfl
    omega
  have high : ¬ (0x2000 : UInt32) ≤ char.val := by
    rw [UInt32.le_iff_toNat_le]
    have bound : (0x2000 : UInt32).toNat = 8192 := rfl
    omega
  have listed : char.val ∉ [0x20, 0xa0, 0x1680, 0x2028, 0x2029, 0x202f, 0x205f, 0x3000, 0xfeff] := by
    intro member
    simp only [List.mem_cons, List.not_mem_nil, or_false] at member
    rcases member with same | same | same | same | same | same | same | same | same <;> simp [same] at range
  simp only [isSpace, decide_eq_false_iff_not]
  rintro (⟨_, below⟩ | ⟨above, _⟩ | member)
  · exact low below
  · exact high above
  · exact listed member

theorem trim_of_isGtin (accepted : isGtin text = true) : trim text = text := by
  obtain ⟨_, _, digits⟩ := of_decide_eq_true accepted
  have kept : ∀ char ∈ text.toList, isSpace char = false := fun char member =>
    isSpace_of_isDigit (List.all_eq_true.mp digits char member)
  have front : text.toList.dropWhile isSpace = text.toList :=
    List.dropWhile_eq_self_iff.mpr fun inside => by simp [kept _ (List.getElem_mem inside)]
  have back : text.toList.rdropWhile isSpace = text.toList :=
    List.rdropWhile_eq_self_iff.mpr fun inside => by simp [kept _ (List.getLast_mem inside)]
  simp [trim, stripBoth, front, back]

theorem resolvedProduct_some (resolved : resolvedProduct code title data = some product) :
    product.barcode = some code ∧ product.overallConfidence = gtinConfidence ∧ product.title = title := by
  simp only [resolvedProduct, Option.bind_eq_bind, Option.bind_eq_some_iff, Option.pure_def, Option.some.injEq]
    at resolved
  obtain ⟨_, _, _, _, _, _, rfl⟩ := resolved
  exact ⟨rfl, rfl, rfl⟩

theorem queryHost_some (found : service.queryHost host code = some product) :
    product.barcode = some code ∧ product.overallConfidence = gtinConfidence ∧ product.title ≠ "" ∧
      trim product.title = product.title := by
  obtain ⟨reply, _, resolved⟩ := Option.bind_eq_some_iff.mp found
  split at resolved
  · split at resolved
    · cases resolved
    · rename_i name _ _ accepted
      obtain ⟨barcode, confidence, same⟩ := resolvedProduct_some resolved
      rw [same]
      exact ⟨barcode, confidence, fun blank => accepted (.inr blank), trim_trim name⟩
  · cases resolved

theorem lookup_some (found : service.lookup text = some product) :
    isGtin (trim text) = true ∧ product.barcode = some (trim text) ∧ product.overallConfidence = gtinConfidence ∧
      product.title ≠ "" ∧ trim product.title = product.title := by
  unfold BarcodeLookupService.lookup at found
  dsimp only at found
  split at found
  · cases found
  · split at found
    · cases found
    · rename_i accepted
      obtain ⟨host, _, answered⟩ := List.exists_of_findSome?_eq_some found
      exact ⟨by simpa using accepted, queryHost_some answered⟩

end Lookup

end Aicos.Extraction
