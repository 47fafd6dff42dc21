import Aicos.Catalog.Naming
import Aicos.Data.Words
import Aicos.Extraction.Review
import Aicos.Identity.SignIns
import Aicos.Import.Service

namespace Aicos.Properties

open Aicos.Data Aicos.Extraction

/-! The slugs that are derived from titles and names.  What is cut at a limit may end in the
hyphen the cut falls on, and the shared derivation has no word for a text without letters. -/

/-- What the catalogue asks of a slug that comes with a request. -/
def Accepted (limit : Nat) (slug : String) : Prop :=
  isSlug slug.toList = true ∧ slug.toList.length ≤ limit

instance (limit : Nat) (slug : String) : Decidable (Accepted limit slug) :=
  inferInstanceAs (Decidable (_ ∧ _))

/-- The words of a text as the shared derivation folds it. -/
def foldedWords (nfkd : String → String) (text : String) : List (List Char) :=
  words isSlugChar ((Catalog.withoutMarks nfkd text).map Char.toLower)

/-- The words of a text as the other derivations fold it. -/
def loweredWords (toLowerCase : String → String) (text : String) : List (List Char) :=
  words isSlugChar (trim (toLowerCase text)).toList

theorem mem_loweredWords {toLowerCase : String → String} {text : String} {part : List Char}
    (member : part ∈ loweredWords toLowerCase text) : part ≠ [] ∧ ∀ char ∈ part, isSlugChar char = true :=
  mem_words member

section Derivations

variable (toLowerCase : String → String) (text : String)

theorem slugify_accepted_iff (nfkd : String → String) (limit : Nat) :
    Accepted limit (Catalog.slugify nfkd text) ↔
      foldedWords nfkd text ≠ [] ∧ ((foldedWords nfkd text).map fun word => word.length + 1).sum ≤ limit + 1 := by
  unfold Accepted Catalog.slugify
  rw [String.toList_ofList, hyphenated_eq not_isSlugChar_hyphen, isSlug_intercalate fun _ => mem_words,
    length_intercalate]
  exact and_congr_right fun _ => Nat.sub_le_iff_le_add

/-- The words that fit in the room, the last of them cut where it has to be. -/
def fitting (room : Nat) (toLowerCase : String → String) (text : String) : List Char :=
  (['-'].intercalate (loweredWords toLowerCase text)).take room

theorem fitting_eq_nil {room : Nat} (positive : 0 < room) :
    fitting room toLowerCase text = [] ↔ loweredWords toLowerCase text = [] := by
  rw [fitting, List.take_eq_nil_iff, intercalate_eq_nil fun _ => mem_loweredWords]
  exact or_iff_right positive.ne'

theorem toList_slugWithin (limit : Nat) (fallback : String) :
    (slugWithin limit fallback toLowerCase text).toList =
      if fitting limit toLowerCase text = [] then fallback.toList else fitting limit toLowerCase text := by
  unfold slugWithin
  rw [hyphenated_eq not_isSlugChar_hyphen]
  refine (apply_ite String.toList _ _ _).trans ?_
  rw [String.toList_ofList]
  rfl

theorem slugWithin_accepted_iff {limit : Nat} {fallback : String} (positive : 0 < limit)
    (stands : Accepted limit fallback) :
    Accepted limit (slugWithin limit fallback toLowerCase text) ↔
      ¬ CutAfterHyphen limit (loweredWords toLowerCase text) := by
  unfold Accepted
  rw [toList_slugWithin]
  by_cases none : loweredWords toLowerCase text = []
  · rw [if_pos ((fitting_eq_nil toLowerCase text positive).mpr none), none]
    exact iff_of_true stands not_cutAfterHyphen_nil
  · rw [if_neg ((fitting_eq_nil toLowerCase text positive).not.mpr none), fitting,
      isSlug_take (fun _ => mem_loweredWords) positive]
    simp [none]

theorem fitting_inside {room : Nat} {char : Char} (member : char ∈ fitting room toLowerCase text) :
    isSlugChar char = true ∨ char = '-' :=
  mem_intercalate (fun _ => mem_loweredWords) (List.mem_of_mem_take member)

theorem fitting_head {room : Nat} {char : Char} (positive : 0 < room)
    (head : (fitting room toLowerCase text).head? = some char) : isSlugChar char = true := by
  rw [fitting, List.head?_take, if_neg positive.ne'] at head
  exact kept_of_head?_intercalate (fun _ => mem_loweredWords) head

/-- A slug but for its end, which may be a hyphen. -/
structure OpensSlug (front : List Char) : Prop where
  filled : front ≠ []
  first : ∀ char, front.head? = some char → isSlugChar char = true
  inside : ∀ char ∈ front, isSlugChar char = true ∨ char = '-'

theorem OpensSlug.of_isSlug {chars : List Char} (slug : isSlug chars = true) : OpensSlug chars := by
  obtain ⟨⟨first, head, kept⟩, _, inside⟩ := isSlug_iff.mp slug
  refine ⟨?_, ?_, inside⟩
  · intro none
    simp [none] at head
  · intro char begins
    exact Option.some.inj (head.symm.trans begins) ▸ kept

theorem slugWithin_opens {limit : Nat} {fallback : String} (positive : 0 < limit)
    (stands : isSlug fallback.toList = true) : OpensSlug (slugWithin limit fallback toLowerCase text).toList := by
  rw [toList_slugWithin]
  split
  · exact .of_isSlug stands
  · rename_i filled
    refine ⟨filled, ?_, fun _ => fitting_inside toLowerCase text⟩
    exact fun _ => fitting_head toLowerCase text positive

theorem length_slugWithin_le {limit : Nat} {fallback : String} (short : fallback.toList.length ≤ limit) :
    (slugWithin limit fallback toLowerCase text).toList.length ≤ limit := by
  rw [toList_slugWithin]
  split
  · exact short
  · exact List.length_take_le _ _

/-- A cut in front of a hyphen and more does no harm. -/
theorem OpensSlug.append {front back : List Char} (opens : OpensSlug front) (more : back ≠ [])
    (ends : ∀ char ∈ back, isSlugChar char = true) : isSlug (front ++ '-' :: back) = true := by
  refine (isSlug_iff_last ?_ ?_).mpr ⟨by simp, ?_⟩
  · intro char head
    rw [List.head?_append_of_ne_nil _ opens.filled] at head
    exact opens.first char head
  · intro char member
    rcases List.mem_append.mp member with here | there
    · exact opens.inside char here
    · rcases List.mem_cons.mp there with hyphen | beyond
      · exact .inr hyphen
      · exact .inl (ends char beyond)
  · intro hyphen
    rw [List.getLast?_append_of_ne_nil _ (List.cons_ne_nil _ _), List.getLast?_cons_of_ne_nil more] at hyphen
    have kept := ends '-' (List.mem_of_getLast? hyphen)
    rw [not_isSlugChar_hyphen] at kept
    cases kept

theorem productSlug_accepted (context : ReviewContext) (result : ReviewedResult)
    (filled : (context.cuid result.id).toList ≠ [])
    (cuid : ∀ char ∈ (context.cuid result.id).toList, isSlugChar char = true) :
    Accepted 79 (context.productSlug result) := by
  have shape : (context.productSlug result).toList =
      (slugify context.toLowerCase (ReviewContext.productTitle result)).toList ++ '-' ::
        (context.cuid result.id).toList.drop ((context.cuid result.id).toList.length - 6) := by
    simp [ReviewContext.productSlug, String.toList_append, toString]
  have opens : OpensSlug (slugify context.toLowerCase (ReviewContext.productTitle result)).toList :=
    slugWithin_opens _ _ (by decide) (by decide)
  have short : (slugify context.toLowerCase (ReviewContext.productTitle result)).toList.length ≤ 72 :=
    length_slugWithin_le _ _ (by decide)
  have some := List.length_pos_iff.mpr filled
  refine ⟨?_, ?_⟩
  · rw [shape]
    refine opens.append ?_ fun char member => cuid char (List.mem_of_mem_drop member)
    rw [Ne, List.drop_eq_nil_iff]
    omega
  · rw [shape, List.length_append, List.length_cons, List.length_drop]
    omega

/-- A name of fewer than three characters is led in by `t-` and filled up with zeros. -/
theorem isSlug_rightpad {slug : List Char} (short : slug.length < 3) (stands : slug = [] ∨ isSlug slug = true) :
    isSlug (('t' :: '-' :: slug).rightpad 3 '0') = true ∧ (('t' :: '-' :: slug).rightpad 3 '0').length ≤ 63 := by
  have letter : isSlugChar 't' = true := by decide
  match slug, short with
  | [], _ => decide
  | [first], _ =>
      have kept : isSlugChar first = true := by simpa [isSlug] using stands
      simp [List.rightpad, isSlug, kept, letter]
  | [first, second], _ =>
      have kept : isSlugChar first = true ∧ isSlugChar second = true := by simpa [isSlug] using stands
      simp [List.rightpad, isSlug, kept, letter]

theorem normaliseSlug_accepted_iff (runtime : Identity.Runtime) :
    Accepted 63 (Identity.normaliseSlug runtime text) ↔ ¬ CutAfterHyphen 63 (loweredWords runtime.toLowerCase text) := by
  have joined : hyphenated isSlugChar (trim (runtime.toLowerCase text)).toList =
      ['-'].intercalate (loweredWords runtime.toLowerCase text) := hyphenated_eq not_isSlugChar_hyphen _
  have slug : Identity.normaliseSlug runtime text =
      if (fitting 63 runtime.toLowerCase text).length ≥ 3 then String.ofList (fitting 63 runtime.toLowerCase text)
      else String.ofList (('t' :: '-' :: fitting 63 runtime.toLowerCase text).rightpad 3 '0') := by
    rw [fitting, ← joined, Identity.normaliseSlug]
  have stands : isSlug (fitting 63 runtime.toLowerCase text) = true ↔
      loweredWords runtime.toLowerCase text ≠ [] ∧ ¬ CutAfterHyphen 63 (loweredWords runtime.toLowerCase text) :=
    isSlug_take (fun _ => mem_loweredWords) (by decide)
  have length : (fitting 63 runtime.toLowerCase text).length =
      min 63 (['-'].intercalate (loweredWords runtime.toLowerCase text)).length := List.length_take
  rw [slug, Accepted]
  by_cases long : (fitting 63 runtime.toLowerCase text).length ≥ 3
  · have filled : loweredWords runtime.toLowerCase text ≠ [] := by
      intro none
      rw [none, List.intercalate_nil, List.length_nil] at length
      omega
    rw [if_pos long, String.toList_ofList, stands]
    have short : (fitting 63 runtime.toLowerCase text).length ≤ 63 := by omega
    simp [filled, short]
  · -- a cut at the 63rd character leaves more than two
    have uncut : ¬ CutAfterHyphen 63 (loweredWords runtime.toLowerCase text) := by
      intro cut
      have enough := cut.le_length
      omega
    rw [if_neg long, String.toList_ofList]
    refine iff_of_true (isSlug_rightpad (by omega) ?_) uncut
    by_cases none : loweredWords runtime.toLowerCase text = []
    · exact .inl ((fitting_eq_nil _ _ (by decide)).mpr none)
    · exact .inr (stands.mpr ⟨none, uncut⟩)

end Derivations

theorem derived_slugs_accepted_iff (nfkd toLowerCase : String → String) (runtime : Identity.Runtime)
    (context : ReviewContext) (text : String) (result : ReviewedResult)
    (filled : (context.cuid result.id).toList ≠ [])
    (cuid : ∀ char ∈ (context.cuid result.id).toList, isSlugChar char = true) :
    (Accepted 255 (Catalog.slugify nfkd text) ↔
      foldedWords nfkd text ≠ [] ∧ ((foldedWords nfkd text).map fun word => word.length + 1).sum ≤ 256) ∧
    (Accepted 80 (Import.slugify toLowerCase text) ↔ ¬ CutAfterHyphen 80 (loweredWords toLowerCase text)) ∧
    Accepted 79 (context.productSlug result) ∧
    (Accepted 63 (Identity.normaliseSlug runtime text) ↔
      ¬ CutAfterHyphen 63 (loweredWords runtime.toLowerCase text)) :=
  ⟨slugify_accepted_iff text nfkd 255, slugWithin_accepted_iff toLowerCase text (by decide) (by decide),
    productSlug_accepted context result filled cuid, normaliseSlug_accepted_iff text runtime⟩

def lampContext : ReviewContext where
  tenantId := 1
  toLowerCase := id
  cuid := fun _ => "cmbq3x7k90001"

def lampResult : ReviewedResult where
  id := 1
  jobId := 1
  title := some "desk lamp"
  priceCents := some 1900
  currency := none
  barcode := none
  brandGuess := none
  categoryGuess := none
  overallConfidence := 1
  fieldConfidence := .object []
  sourceFrameIds := []
  imageMediaIds := []
  description := none

theorem desk_lamp_slugs_accepted_iff :
    (Accepted 255 (Catalog.slugify id "desk lamp") ↔
      foldedWords id "desk lamp" ≠ [] ∧ ((foldedWords id "desk lamp").map fun word => word.length + 1).sum ≤ 256) ∧
    (Accepted 80 (Import.slugify id "desk lamp") ↔ ¬ CutAfterHyphen 80 (loweredWords id "desk lamp")) ∧
    Accepted 79 (lampContext.productSlug lampResult) ∧
    (Accepted 63 (Identity.normaliseSlug Identity.plainRuntime "desk lamp") ↔
      ¬ CutAfterHyphen 63 (loweredWords Identity.plainRuntime.toLowerCase "desk lamp")) ∧
    Accepted 255 (Catalog.slugify id "desk lamp") ∧ Accepted 80 (Import.slugify id "desk lamp") ∧
    Accepted 63 (Identity.normaliseSlug Identity.plainRuntime "desk lamp") := by
  have accepted := derived_slugs_accepted_iff id id Identity.plainRuntime lampContext "desk lamp" lampResult (by decide)
    (List.all_eq_true.mp (by decide))
  exact ⟨accepted.1, accepted.2.1, accepted.2.2.1, accepted.2.2.2, by decide +kernel⟩

/-- A title without a Latin letter has no slug, and a long one may be cut right after a hyphen. -/
theorem derived_slugs_not_accepted :
    ¬ Accepted 255 (Catalog.slugify id "ランプ") ∧
    ¬ Accepted 80 (Import.slugify id (String.ofList (List.replicate 79 'a' ++ [' ', 'b']))) ∧
    ¬ Accepted 63 (Identity.normaliseSlug Identity.plainRuntime
      (String.ofList (List.replicate 62 'a' ++ [' ', 'b']))) := by
  decide +kernel

end Aicos.Properties
