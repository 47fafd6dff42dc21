import Aicos.Data.Loops
import Aicos.Data.Text

namespace Aicos.Catalog

open Aicos.Data

/-! `slugify`, `uniqueSlug` and `skuFromTitle`.  `nfkd` is `normalize('NFKD')`; what it leaves
outside ASCII is hyphenated away in either case, but for two letters whose capitals
are ASCII. -/

def isCombiningMark (char : Char) : Bool :=
  0x300 ≤ char.toNat ∧ char.toNat ≤ 0x36f

def isSkuChar (char : Char) : Bool :=
  ('A' ≤ char ∧ char ≤ 'Z') ∨ ('0' ≤ char ∧ char ≤ '9')

def toUpperCase (char : Char) : List Char :=
  if char = 'ß' then ['S', 'S'] else if char = 'ı' then ['I'] else [char.toUpper]

variable (nfkd : String → String)

def withoutMarks (input : String) : List Char :=
  (nfkd input).toList.filter fun char => ¬ isCombiningMark char

def slugify (input : String) : String :=
  String.ofList (hyphenated isSlugChar ((withoutMarks nfkd input).map Char.toLower))

/-- `slugify(input) || 'item'`. -/
def baseSlug (input : String) : String :=
  let slug := slugify nfkd input
  if slug = "" then "item" else slug

def suffixed (base : String) (n : Nat) : String :=
  s!"{base}-{n}"

theorem suffixed_injective (base : String) : (suffixed base).Injective := by
  intro first second same
  refine toString_injective (String.toList_inj.mp ?_)
  have texts := congrArg String.toList same
  simpa only [suffixed, String.toList_append, List.append_cancel_left_eq] using texts

def uniqueSlug (input : String) (taken : List String) : String :=
  let base := baseSlug nfkd input
  if base ∉ taken then base else suffixed base (firstFree (suffixed_injective base) taken 2)

def skuSegment (input : String) : List Char :=
  hyphenated isSkuChar ((withoutMarks nfkd input).flatMap toUpperCase)

/-- `skuFromTitle` with its default `maxLength` of 48. -/
def skuFromTitle (title : String) (parts : List String) : String :=
  let segments := ((title :: parts).map (skuSegment nfkd)).filter fun segment => segment ≠ []
  String.ofList (((List.intersperse ['-'] segments).flatten.take 48).rdropWhile (· = '-'))

example : slugify id "Cafe Creme 500ml!" = "cafe-creme-500ml" := by decide

example : skuFromTitle id "Cold Brew" ["500ml", "Black"] = "COLD-BREW-500ML-BLACK" := by decide

end Aicos.Catalog
