import Aicos.Catalog.Naming
import Aicos.Data.Words

namespace Aicos.Properties

open Aicos.Catalog Aicos.Data

/-! The first free suffix of a slug, and slugs of slugs. -/

/-- Normalisation leaves text in ASCII as it is. -/
def KeepsAscii (nfkd : String → String) : Prop :=
  ∀ text : String, (∀ char ∈ text.toList, char.toNat < 128) → nfkd text = text

theorem stays_of_slug {char : Char} (slug : isSlugChar char = true ∨ char = '-') :
    char.toNat < 128 ∧ isCombiningMark char = false ∧ char.toLower = char := by
  have bounds : (97 ≤ char.toNat ∧ char.toNat ≤ 122) ∨ (48 ≤ char.toNat ∧ char.toNat ≤ 57) ∨ char.toNat = 45 := by
    rcases slug with kept | rfl
    · have either := of_decide_eq_true kept
      exact either.imp id .inl
    · exact .inr (.inr rfl)
  refine ⟨by omega, ?_, ?_⟩
  · refine decide_eq_false fun mark => ?_
    omega
  · refine dif_neg fun upper => ?_
    have low : 65 ≤ char.toNat := upper.1
    have high : char.toNat ≤ 90 := upper.2
    omega

section Slugs

variable {nfkd : String → String}

/-- Nothing but the hyphenation is left to do on a slug, and that is done. -/
theorem slugify_slugify (ascii : KeepsAscii nfkd) (input : String) :
    slugify nfkd (slugify nfkd input) = slugify nfkd input := by
  let slug := hyphenated isSlugChar ((withoutMarks nfkd input).map Char.toLower)
  have inside : ∀ char ∈ slug, isSlugChar char = true ∨ char = '-' := by
    intro char member
    rw [show slug = _ from hyphenated_eq not_isSlugChar_hyphen _] at member
    exact mem_intercalate (fun _ => mem_words) member
  have normal : nfkd (String.ofList slug) = String.ofList slug := by
    refine ascii _ fun char member => ?_
    rw [String.toList_ofList] at member
    exact (stays_of_slug (inside char member)).1
  have unmarked : withoutMarks nfkd (String.ofList slug) = slug := by
    rw [withoutMarks, normal, String.toList_ofList, List.filter_eq_self]
    intro char member
    simp [(stays_of_slug (inside char member)).2.1]
  have lower : slug.map Char.toLower = slug :=
    (List.map_congr_left fun char member => (stays_of_slug (inside char member)).2.2).trans (List.map_id slug)
  calc
    slugify nfkd (String.ofList slug) = String.ofList (hyphenated isSlugChar slug) := by
      rw [slugify, unmarked, lower]
    _ = String.ofList slug := congrArg String.ofList (hyphenated_idem not_isSlugChar_hyphen _)

theorem uniqueSlug_of_free {input : String} {taken : List String} (free : baseSlug nfkd input ∉ taken) :
    uniqueSlug nfkd input taken = baseSlug nfkd input :=
  if_pos free

theorem uniqueSlug_of_taken {input : String} {taken : List String} (used : baseSlug nfkd input ∈ taken) :
    uniqueSlug nfkd input taken = suffixed (baseSlug nfkd input)
      (firstFree (suffixed_injective (baseSlug nfkd input)) taken 2) :=
  if_neg (not_not.mpr used)

theorem uniqueSlug_free (nfkd : String → String) (input : String) (taken : List String) :
    uniqueSlug nfkd input taken ∉ taken := by
  by_cases used : baseSlug nfkd input ∈ taken
  · rw [uniqueSlug_of_taken used]
    exact (firstFree_free _ taken 2).2
  · rwa [uniqueSlug_of_free used]

end Slugs

/-- The search ends at the smallest suffix that is free, whatever is taken. -/
theorem unique_slug_takes_first_free (nfkd : String → String) :
    (∀ (input : String) (taken : List String),
      uniqueSlug nfkd input taken ∉ taken ∧
      (baseSlug nfkd input ∉ taken → uniqueSlug nfkd input taken = baseSlug nfkd input) ∧
      ∃ n, n ∈ StateTransition.eval (probe (suffixed (baseSlug nfkd input)) taken) 2 ∧ 2 ≤ n ∧
        (∀ smaller, 2 ≤ smaller → smaller < n → suffixed (baseSlug nfkd input) smaller ∈ taken) ∧
        (baseSlug nfkd input ∈ taken → uniqueSlug nfkd input taken = suffixed (baseSlug nfkd input) n)) ∧
    (KeepsAscii nfkd → ∀ input, slugify nfkd (slugify nfkd input) = slugify nfkd input) := by
  refine ⟨fun input taken => ⟨uniqueSlug_free nfkd input taken, uniqueSlug_of_free, ?_⟩, slugify_slugify⟩
  have distinct := suffixed_injective (baseSlug nfkd input)
  refine ⟨firstFree distinct taken 2, probe_ends distinct taken 2, (firstFree_free distinct taken 2).1, ?_,
    uniqueSlug_of_taken⟩
  intro smaller above before
  exact taken_of_lt_firstFree distinct above before

theorem third_tea : uniqueSlug id "Tea" ["tea", "tea-2"] = "tea-3" := by
  have base : baseSlug id "Tea" = "tea" := by decide
  obtain ⟨free, _, n, _, above, taken, suffix⟩ := (unique_slug_takes_first_free id).1 "Tea" ["tea", "tea-2"]
  rw [base] at taken suffix
  have suffix := suffix (by decide)
  rw [suffix] at free ⊢
  rcases (by omega : n = 2 ∨ n = 3 ∨ 3 < n) with rfl | rfl | beyond
  · exact absurd (by decide) free
  · rfl
  · exact absurd (taken 3 (by decide) beyond) (by decide)

end Aicos.Properties
