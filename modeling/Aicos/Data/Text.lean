import Mathlib.Data.List.DropRight

namespace Aicos.Data

/-! Text as the services trim it, and slugs as their regular expressions make them. -/

/-- What JavaScript's `trim` strips and `\s` matches. -/
def isSpace (char : Char) : Bool :=
  ('\t'.val ≤ char.val ∧ char.val ≤ '\r'.val) ∨ (0x2000 ≤ char.val ∧ char.val ≤ 0x200a) ∨
    char.val ∈ [0x20, 0xa0, 0x1680, 0x2028, 0x2029, 0x202f, 0x205f, 0x3000, 0xfeff]

def stripBoth (dropped : Char → Bool) (chars : List Char) : List Char :=
  (chars.dropWhile dropped).rdropWhile dropped

def trim (text : String) : String :=
  String.ofList (stripBoth isSpace text.toList)

/-- `.replace(/\s+/g, ' ')`. -/
def collapseSpaces : Bool → List Char → List Char
  | _, [] => []
  | inRun, char :: rest =>
      if ¬ isSpace char then char :: collapseSpaces false rest
      else if inRun then collapseSpaces true rest
      else ' ' :: collapseSpaces true rest

def isSlugChar (char : Char) : Bool :=
  ('a' ≤ char ∧ char ≤ 'z') ∨ ('0' ≤ char ∧ char ≤ '9')

/-- Every run of characters that are not kept becomes one hyphen. -/
def hyphenate (kept : Char → Bool) : Bool → List Char → List Char
  | _, [] => []
  | inRun, char :: rest =>
      if kept char then char :: hyphenate kept false rest
      else if inRun then hyphenate kept true rest
      else '-' :: hyphenate kept true rest

/-- `.replace(/[^…]+/g, '-').replace(/^-+|-+$/g, '')`. -/
def hyphenated (kept : Char → Bool) (chars : List Char) : List Char :=
  stripBoth (· = '-') (hyphenate kept false chars)

/-- A lower-cased slug cut at `limit`, and the word that stands for an empty one. -/
def slugWithin (limit : Nat) (fallback : String) (toLowerCase : String → String) (text : String) : String :=
  let slug := (hyphenated isSlugChar (trim (toLowerCase text)).toList).take limit
  if slug = [] then fallback else String.ofList slug

theorem head?_stripBoth {dropped : Char → Bool} {chars : List Char} {char : Char}
    (head : (stripBoth dropped chars).head? = some char) : dropped char = false := by
  obtain ⟨tail, split⟩ := List.rdropWhile_prefix dropped (chars.dropWhile dropped)
  change stripBoth dropped chars ++ tail = chars.dropWhile dropped at split
  cases stripped : stripBoth dropped chars with
  | nil =>
      rw [stripped] at head
      cases head
  | cons first rest =>
      rw [stripped] at head split
      obtain rfl := Option.some.inj head
      have left : chars.dropWhile dropped ≠ [] := by simp [← split]
      have kept := List.head_dropWhile_not dropped left
      simpa [← split] using kept

theorem getLast?_stripBoth {dropped : Char → Bool} {chars : List Char} {char : Char}
    (last : (stripBoth dropped chars).getLast? = some char) : dropped char = false := by
  have left : stripBoth dropped chars ≠ [] := by
    intro none
    rw [none] at last
    cases last
  rw [List.getLast?_eq_some_getLast left] at last
  obtain rfl := Option.some.inj last
  exact Bool.eq_false_iff.mpr (List.rdropWhile_last_not dropped (chars.dropWhile dropped) left)

/-- Text that neither begins nor ends with what is stripped is left as it is. -/
theorem stripBoth_eq_self {dropped : Char → Bool} {chars : List Char}
    (first : ∀ char, chars.head? = some char → dropped char = false)
    (last : ∀ char, chars.getLast? = some char → dropped char = false) : stripBoth dropped chars = chars := by
  have front : chars.dropWhile dropped = chars := by
    cases chars with
    | nil => rfl
    | cons char rest => rw [List.dropWhile_cons_of_neg (by simp [first char rfl])]
  rw [stripBoth, front, List.rdropWhile_eq_self_iff]
  intro left
  rw [last _ (List.getLast?_eq_some_getLast left)]
  decide

theorem stripBoth_idem (dropped : Char → Bool) (chars : List Char) :
    stripBoth dropped (stripBoth dropped chars) = stripBoth dropped chars :=
  stripBoth_eq_self (fun _ => head?_stripBoth) (fun _ => getLast?_stripBoth)

theorem trim_trim (text : String) : trim (trim text) = trim text := by
  simp [trim, stripBoth_idem]

theorem collapseSpaces_eq_nil {chars : List Char} : collapseSpaces false chars = [] ↔ chars = [] := by
  cases chars with
  | nil => simp [collapseSpaces]
  | cons char rest => by_cases blank : isSpace char = true <;> simp [collapseSpaces, blank]

theorem collapseSpaces_idem (inRun : Bool) (chars : List Char) :
    collapseSpaces inRun (collapseSpaces inRun chars) = collapseSpaces inRun chars := by
  induction chars generalizing inRun with
  | nil => simp [collapseSpaces]
  | cons char rest ih =>
      have space : isSpace ' ' = true := by decide
      by_cases blank : isSpace char = true
      · cases inRun <;> simp [collapseSpaces, blank, space, ih]
      · simp [collapseSpaces, blank, ih]

theorem head?_collapseSpaces {chars : List Char} {char : Char} (head : chars.head? = some char)
    (kept : isSpace char = false) : (collapseSpaces false chars).head? = some char := by
  cases chars with
  | nil => cases head
  | cons first rest =>
      obtain rfl := Option.some.inj head
      simp [collapseSpaces, kept]

theorem getLast?_collapseSpaces {chars : List Char} {char : Char} (inRun : Bool) (last : chars.getLast? = some char)
    (kept : isSpace char = false) : (collapseSpaces inRun chars).getLast? = some char := by
  induction chars generalizing inRun with
  | nil => cases last
  | cons first rest ih =>
      cases rest with
      | nil =>
          obtain rfl : first = char := by simpa using last
          simp [collapseSpaces, kept]
      | cons second rest =>
          rw [List.getLast?_cons_cons] at last
          rw [collapseSpaces]
          split
          · rw [List.getLast?_cons, ih false last, Option.getD_some]
          · split
            · exact ih true last
            · rw [List.getLast?_cons, ih true last, Option.getD_some]

/-- Collapsing the blanks of trimmed text leaves nothing to trim. -/
theorem stripBoth_collapseSpaces (chars : List Char) :
    stripBoth isSpace (collapseSpaces false (stripBoth isSpace chars)) =
      collapseSpaces false (stripBoth isSpace chars) := by
  cases stripped : stripBoth isSpace chars with
  | nil => rfl
  | cons first rest =>
      have head : (stripBoth isSpace chars).head? = some first := by rw [stripped]; rfl
      have last := List.getLast?_eq_some_getLast (List.cons_ne_nil first rest)
      have firstKept := head?_stripBoth head
      have ends : (stripBoth isSpace chars).getLast? = some ((first :: rest).getLast (List.cons_ne_nil _ _)) := by
        rw [stripped, last]
      have lastKept := getLast?_stripBoth ends
      have starts : (collapseSpaces false (first :: rest)).head? = some first := head?_collapseSpaces rfl firstKept
      refine stripBoth_eq_self (fun char begins => ?_) (fun char ends => ?_)
      · rw [starts] at begins
        exact Option.some.inj begins ▸ firstKept
      · rw [getLast?_collapseSpaces false last lastKept] at ends
        exact Option.some.inj ends ▸ lastKept

theorem toString_injective : Function.Injective (toString : Nat → String) := by
  intro first second same
  have digits : Nat.toDigits 10 first = Nat.toDigits 10 second := by
    rw [← Nat.toList_repr, ← Nat.toList_repr]
    exact congrArg String.toList same
  rw [← Nat.ofDigitChars_ten_toDigits (n := first), digits, Nat.ofDigitChars_ten_toDigits]

end Aicos.Data
