import Aicos.Data.Text
import Mathlib.Algebra.Ring.Nat

namespace Aicos.Data

/-! The words of a text, which its slug joins with hyphens. -/

/-- The longest runs of kept characters. -/
def words (kept : Char → Bool) : List Char → List (List Char)
  | [] => []
  | [char] => if kept char then [[char]] else []
  | char :: next :: rest =>
      if ¬ kept char then words kept (next :: rest)
      else if kept next then (words kept (next :: rest)).modifyHead (char :: ·)
      else [char] :: words kept (next :: rest)

/-- The first words, with a hyphen after each of them, take up all the room, and more words follow. -/
def CutAfterHyphen (room : Nat) (words : List (List Char)) : Prop :=
  ∃ shown hidden, words = shown ++ hidden ∧ hidden ≠ [] ∧ (shown.map fun word => word.length + 1).sum = room

theorem not_cutAfterHyphen_nil {room : Nat} : ¬ CutAfterHyphen room [] := by
  intro cut
  obtain ⟨shown, hidden, joined, left, _⟩ := cut
  exact left (List.append_eq_nil_iff.mp joined.symm).2

theorem cutAfterHyphen_cons {room : Nat} {first : List Char} {rest : List (List Char)} (positive : 0 < room)
    (more : rest ≠ []) :
    CutAfterHyphen room (first :: rest) ↔
      room = first.length + 1 ∨ (first.length + 1 < room ∧ CutAfterHyphen (room - (first.length + 1)) rest) := by
  constructor
  · intro cut
    obtain ⟨shown, hidden, joined, left, taken⟩ := cut
    cases shown with
    | nil =>
        rw [List.map_nil, List.sum_nil] at taken
        omega
    | cons word shown =>
        obtain ⟨rfl, rfl⟩ := List.cons.inj joined
        rw [List.map_cons, List.sum_cons] at taken
        by_cases only : shown = []
        · subst only
          exact .inl taken.symm
        · obtain ⟨next, shown, rfl⟩ := List.exists_cons_of_ne_nil only
          rw [List.map_cons, List.sum_cons] at taken
          refine .inr ⟨by omega, next :: shown, hidden, rfl, left, ?_⟩
          rw [List.map_cons, List.sum_cons]
          omega
  · intro cases
    rcases cases with rfl | ⟨beyond, shown, hidden, joined, left, taken⟩
    · exact ⟨[first], rest, rfl, more, by simp⟩
    · refine ⟨first :: shown, hidden, by rw [joined, List.cons_append], left, ?_⟩
      rw [List.map_cons, List.sum_cons, taken]
      omega

/-- `/^[a-z0-9](?:[a-z0-9-]*[a-z0-9])?$/`. -/
def isSlug : List Char → Bool
  | [] => false
  | [char] => isSlugChar char
  | first :: second :: rest =>
      isSlugChar first ∧ (second :: rest).dropLast.all (fun char => isSlugChar char ∨ char = '-') ∧
        (second :: rest).getLast?.any isSlugChar

section Words

variable {kept : Char → Bool} {chars : List Char}

theorem words_eq_nil : words kept chars = [] ↔ ∀ char ∈ chars, kept char = false := by
  induction chars using words.induct kept with
  | case1 => simp [words]
  | case2 char keeps => simp [words, keeps]
  | case3 char drops => simp [words, drops]
  | case4 char next rest drops ih => simp_all [words]
  | case5 char next rest keeps more ih => simp_all [words, List.modifyHead_eq_nil_iff]
  | case6 char next rest keeps ends ih => simp_all [words]

theorem mem_words {word : List Char} (member : word ∈ words kept chars) :
    word ≠ [] ∧ ∀ char ∈ word, kept char = true := by
  induction chars using words.induct kept generalizing word with
  | case1 => simp [words] at member
  | case2 char keeps =>
      simp only [words, keeps, if_true, List.mem_singleton] at member
      simp [member, keeps]
  | case3 char drops => simp [words, drops] at member
  | case4 char next rest drops ih =>
      rw [words, if_pos drops] at member
      exact ih member
  | case5 char next rest keeps more ih =>
      rw [words, if_neg keeps, if_pos more] at member
      cases found : words kept (next :: rest) with
      | nil => simp [found] at member
      | cons first others =>
          rw [found] at ih member
          rcases List.mem_cons.mp member with rfl | later
          · have inside := (ih List.mem_cons_self).2
            exact ⟨List.cons_ne_nil _ _, by simpa [not_not.mp keeps] using inside⟩
          · exact ih (List.mem_cons_of_mem _ later)
  | case6 char next rest keeps ends ih =>
      rw [words, if_neg keeps, if_neg ends] at member
      rcases List.mem_cons.mp member with rfl | later
      · simpa using keeps
      · exact ih later

/-- What hyphenation leaves after a run: the words, joined, and at most hyphens after them. -/
theorem exists_hyphenate_eq (kept : Char → Bool) (chars : List Char) :
    ∃ tail, hyphenate kept true chars = ['-'].intercalate (words kept chars) ++ tail ∧ ∀ char ∈ tail, char = '-' := by
  induction chars using words.induct kept with
  | case1 => exact ⟨[], rfl, by simp⟩
  | case2 char keeps => exact ⟨[], by simp [hyphenate, words, keeps], by simp⟩
  | case3 char drops => exact ⟨[], by simp [hyphenate, words, drops], by simp⟩
  | case4 char next rest drops ih =>
      obtain ⟨tail, joined, hyphens⟩ := ih
      exact ⟨tail, by rw [hyphenate, if_neg drops, if_pos rfl, words, if_pos drops, joined], hyphens⟩
  | case5 char next rest keeps more ih =>
      obtain ⟨tail, joined, hyphens⟩ := ih
      refine ⟨tail, ?_, hyphens⟩
      have inWord : hyphenate kept false (next :: rest) = hyphenate kept true (next :: rest) := by
        simp [hyphenate, more]
      have filled : words kept (next :: rest) ≠ [] := by simp [words_eq_nil, more]
      obtain ⟨first, others, found⟩ := List.exists_cons_of_ne_nil filled
      rw [hyphenate, if_pos (not_not.mp keeps), inWord, joined, words, if_neg keeps, if_pos more, found,
        List.modifyHead_cons, List.intercalate_cons_cons_left, List.cons_append]
  | case6 char next rest keeps ends ih =>
      obtain ⟨tail, joined, hyphens⟩ := ih
      have atEnd : hyphenate kept false (next :: rest) = '-' :: hyphenate kept true (next :: rest) := by
        simp [hyphenate, ends]
      rw [hyphenate, if_pos (not_not.mp keeps), atEnd, joined, words, if_neg keeps, if_neg ends]
      cases found : words kept (next :: rest) with
      | nil =>
          refine ⟨'-' :: tail, by simp, ?_⟩
          simpa using hyphens
      | cons first others => exact ⟨tail, by simp [List.intercalate_cons_cons], hyphens⟩

theorem length_intercalate (parts : List (List Char)) :
    (['-'].intercalate parts).length = (parts.map fun part => part.length + 1).sum - 1 := by
  induction parts with
  | nil => rfl
  | cons first rest ih =>
      cases rest with
      | nil => simp
      | cons second others =>
          rw [List.intercalate_cons_cons, List.length_append, List.length_append, ih, List.length_singleton]
          simp only [List.map_cons, List.sum_cons]
          omega

theorem CutAfterHyphen.le_length {room : Nat} {parts : List (List Char)} (cut : CutAfterHyphen room parts) :
    room ≤ (['-'].intercalate parts).length := by
  obtain ⟨shown, hidden, rfl, left, taken⟩ := cut
  obtain ⟨first, rest, rfl⟩ := List.exists_cons_of_ne_nil left
  rw [length_intercalate, List.map_append, List.sum_append, taken, List.map_cons, List.sum_cons]
  omega

/-! Words that are joined: none is empty, and they hold kept characters only. -/

variable {parts : List (List Char)} (split : ∀ part ∈ parts, part ≠ [] ∧ ∀ char ∈ part, kept char = true)
include split

theorem intercalate_eq_nil : ['-'].intercalate parts = [] ↔ parts = [] := by
  cases parts with
  | nil => simp
  | cons first rest =>
      have filled := (split first List.mem_cons_self).1
      cases rest <;> simp [List.intercalate_cons_cons, filled]

theorem kept_of_head?_intercalate {char : Char} (head : (['-'].intercalate parts).head? = some char) :
    kept char = true := by
  cases parts with
  | nil => simp at head
  | cons first rest =>
      obtain ⟨filled, inside⟩ := split first List.mem_cons_self
      obtain ⟨letter, letters, rfl⟩ := List.exists_cons_of_ne_nil filled
      rw [List.intercalate_cons_cons_left, List.head?_cons] at head
      exact Option.some.inj head ▸ inside letter List.mem_cons_self

theorem kept_of_getLast?_intercalate {char : Char} (last : (['-'].intercalate parts).getLast? = some char) :
    kept char = true := by
  induction parts with
  | nil => simp at last
  | cons first rest ih =>
      obtain ⟨⟨filled, inside⟩, later⟩ := List.forall_mem_cons.mp split
      cases rest with
      | nil =>
          rw [List.intercalate_singleton] at last
          exact inside char (List.mem_of_getLast? last)
      | cons second others =>
          have more : ['-'].intercalate (second :: others) ≠ [] := (intercalate_eq_nil later).not.mpr (by simp)
          rw [List.intercalate_cons_cons, List.append_assoc, List.getLast?_append_of_ne_nil _ (by simp),
            List.getLast?_append_of_ne_nil _ more] at last
          exact ih later last

theorem mem_intercalate {char : Char} (member : char ∈ ['-'].intercalate parts) : kept char = true ∨ char = '-' := by
  induction parts with
  | nil => simp at member
  | cons first rest ih =>
      obtain ⟨⟨_, inside⟩, later⟩ := List.forall_mem_cons.mp split
      cases rest with
      | nil => exact .inl (inside char (by simpa using member))
      | cons second others =>
          rw [List.intercalate_cons_cons, List.append_assoc, List.mem_append] at member
          rcases member with here | there
          · exact .inl (inside char here)
          · rcases List.mem_append.mp there with hyphen | beyond
            · exact .inr (by simpa using hyphen)
            · exact ih later beyond

/-- A cut leaves a hyphen at the end where it falls right after one. -/
theorem getLast?_take_intercalate {room : Nat} (hyphen : kept '-' = false) (positive : 0 < room) :
    ((['-'].intercalate parts).take room).getLast? = some '-' ↔ CutAfterHyphen room parts := by
  have within {word : List Char} (inside : ∀ char ∈ word, kept char = true) (count : Nat) :
      (word.take count).getLast? ≠ some '-' := by
    intro last
    have kept := inside '-' (List.mem_of_mem_take (List.mem_of_getLast? last))
    rw [hyphen] at kept
    cases kept
  induction parts generalizing room with
  | nil => simp [not_cutAfterHyphen_nil]
  | cons first rest ih =>
      obtain ⟨⟨filled, inside⟩, later⟩ := List.forall_mem_cons.mp split
      cases rest with
      | nil =>
          rw [List.intercalate_singleton]
          refine iff_of_false (within inside room) ?_
          intro cut
          obtain ⟨shown, hidden, joined, left, taken⟩ := cut
          cases shown with
          | nil =>
              rw [List.map_nil, List.sum_nil] at taken
              omega
          | cons word shown => exact left (List.append_eq_nil_iff.mp (List.cons.inj joined).2.symm).2
      | cons second others =>
          rw [cutAfterHyphen_cons positive (List.cons_ne_nil _ _), List.intercalate_cons_cons, List.append_assoc,
            List.take_append]
          rcases Nat.lt_trichotomy room (first.length + 1) with before | there | beyond
          · have spent : room - first.length = 0 := by omega
            rw [spent, List.take_zero, List.append_nil]
            exact iff_of_false (within inside room) (by omega)
          · have last : room - first.length = 1 := by omega
            rw [last, List.take_of_length_le (by omega)]
            simp [there]
          · have enough : room - first.length = room - (first.length + 1) + 1 := by omega
            have below : 0 < room - (first.length + 1) := by omega
            have full : (['-'].intercalate (second :: others)).take (room - (first.length + 1)) ≠ [] := by
              rw [Ne, List.take_eq_nil_iff, intercalate_eq_nil later]
              simp [below.ne']
            rw [enough, List.singleton_append, List.take_succ_cons, List.getLast?_append_of_ne_nil _ (by simp),
              List.getLast?_cons_of_ne_nil full]
            refine (ih later below).trans ?_
            simp [beyond, beyond.ne']

end Words

section Hyphenated

variable {kept : Char → Bool} {chars : List Char}

theorem words_cons_of_not {char : Char} (drops : kept char = false) (rest : List Char) :
    words kept (char :: rest) = words kept rest := by
  cases rest <;> simp [words, drops]

/-- A word ends where no kept character follows. -/
theorem words_append {word rest : List Char} (filled : word ≠ []) (inside : ∀ char ∈ word, kept char = true)
    (ends : ∀ char, rest.head? = some char → kept char = false) :
    words kept (word ++ rest) = word :: words kept rest := by
  induction word with
  | nil => exact absurd rfl filled
  | cons char letters ih =>
      have keeps : kept char = true := inside char List.mem_cons_self
      cases letters with
      | nil =>
          cases rest with
          | nil => simp [words, keeps]
          | cons next more => simp [words, keeps, ends next rfl]
      | cons next more =>
          have keepsNext : kept next = true := inside next (by simp)
          have later := ih (List.cons_ne_nil _ _) fun char member => inside char (List.mem_cons_of_mem _ member)
          rw [List.cons_append, List.cons_append, words, if_neg (not_not.mpr keeps), if_pos keepsNext,
            ← List.cons_append, later, List.modifyHead_cons]

theorem words_intercalate (hyphen : kept '-' = false) {parts : List (List Char)}
    (split : ∀ part ∈ parts, part ≠ [] ∧ ∀ char ∈ part, kept char = true) :
    words kept (['-'].intercalate parts) = parts := by
  induction parts with
  | nil => rfl
  | cons first rest ih =>
      obtain ⟨⟨filled, inside⟩, later⟩ := List.forall_mem_cons.mp split
      cases rest with
      | nil =>
          have ends : ∀ char, ([] : List Char).head? = some char → kept char = false := by simp
          have alone := words_append filled inside ends
          rw [List.append_nil] at alone
          rw [List.intercalate_singleton, alone]
          rfl
      | cons second others =>
          rw [List.intercalate_cons_cons, List.append_assoc, List.singleton_append,
            words_append filled inside (by simp [hyphen]), words_cons_of_not hyphen, ih later]

theorem rdropWhile_append {dropped : Char → Bool} {after : List Char} (inside : List Char)
    (back : ∀ char ∈ after, dropped char = true) : (inside ++ after).rdropWhile dropped = inside.rdropWhile dropped := by
  have dropsBack : ∀ char ∈ after.reverse, dropped char = true := by simpa using back
  rw [List.rdropWhile, List.reverse_append, List.dropWhile_append_of_pos dropsBack, List.rdropWhile]

theorem stripBoth_append {dropped : Char → Bool} {before inside after : List Char}
    (front : ∀ char ∈ before, dropped char = true) (back : ∀ char ∈ after, dropped char = true)
    (first : ∀ char, inside.head? = some char → dropped char = false)
    (last : ∀ char, inside.getLast? = some char → dropped char = false) :
    stripBoth dropped (before ++ (inside ++ after)) = inside := by
  rw [stripBoth, List.dropWhile_append_of_pos front]
  cases inside with
  | nil =>
      rw [List.nil_append, List.dropWhile_eq_nil_iff.mpr back]
      rfl
  | cons char rest =>
      have kept : dropped char = false := first char rfl
      have whole := stripBoth_eq_self first last
      rw [stripBoth, List.dropWhile_cons_of_neg (by simp [kept])] at whole
      rw [List.cons_append, List.dropWhile_cons_of_neg (by simp [kept]), ← List.cons_append,
        rdropWhile_append _ back, whole]

/-- The slug of a text is its words with a hyphen between them. -/
theorem hyphenated_eq (hyphen : kept '-' = false) (chars : List Char) :
    hyphenated kept chars = ['-'].intercalate (words kept chars) := by
  obtain ⟨tail, joined, hyphens⟩ := exists_hyphenate_eq kept chars
  have leading : ∃ lead, hyphenate kept false chars = lead ++ hyphenate kept true chars ∧ ∀ char ∈ lead, char = '-' := by
    cases chars with
    | nil => exact ⟨[], rfl, by simp⟩
    | cons char rest =>
        by_cases keeps : kept char = true
        · exact ⟨[], by simp [hyphenate, keeps], by simp⟩
        · exact ⟨['-'], by simp [hyphenate, keeps], by simp⟩
  obtain ⟨lead, led, leads⟩ := leading
  have apart {char : Char} (keeps : kept char = true) : decide (char = '-') = false := by
    refine decide_eq_false fun same => ?_
    rw [same, hyphen] at keeps
    cases keeps
  have split : ∀ part ∈ words kept chars, part ≠ [] ∧ ∀ char ∈ part, kept char = true := fun _ => mem_words
  rw [hyphenated, led, joined]
  exact stripBoth_append (fun char member => decide_eq_true (leads char member))
    (fun char member => decide_eq_true (hyphens char member))
    (fun char head => apart (kept_of_head?_intercalate split head))
    (fun char last => apart (kept_of_getLast?_intercalate split last))

/-- Hyphenating a slug changes nothing. -/
theorem hyphenated_idem (hyphen : kept '-' = false) (chars : List Char) :
    hyphenated kept (hyphenated kept chars) = hyphenated kept chars := by
  simp only [hyphenated_eq hyphen, words_intercalate hyphen fun _ => mem_words]

end Hyphenated

section Slugs

theorem isSlug_iff {chars : List Char} :
    isSlug chars = true ↔ (∃ first, chars.head? = some first ∧ isSlugChar first = true) ∧
      (∃ last, chars.getLast? = some last ∧ isSlugChar last = true) ∧
        ∀ char ∈ chars, isSlugChar char = true ∨ char = '-' := by
  cases chars with
  | nil => simp [isSlug]
  | cons first rest =>
      cases rest with
      | nil => simpa [isSlug] using Or.inl
      | cons second rest =>
          have last := List.getLast?_eq_some_getLast (List.cons_ne_nil second rest)
          have ends : (∀ char ∈ second :: rest, isSlugChar char = true ∨ char = '-') ↔
              (∀ char ∈ (second :: rest).dropLast, isSlugChar char = true ∨ char = '-') ∧
                (isSlugChar ((second :: rest).getLast (List.cons_ne_nil _ _)) = true ∨
                  (second :: rest).getLast (List.cons_ne_nil _ _) = '-') := by
            conv_lhs => rw [← List.dropLast_append_getLast (List.cons_ne_nil second rest)]
            simp only [List.mem_append, or_imp, forall_and, List.mem_singleton, forall_eq]
          rw [isSlug, decide_eq_true_iff, List.getLast?_cons_cons, last, List.forall_mem_cons, ends]
          simp only [List.all_eq_true, decide_eq_true_iff, Option.any_some, List.head?_cons, Option.some.injEq,
            exists_eq_left']
          tauto

theorem not_isSlugChar_hyphen : isSlugChar '-' = false := by
  decide

/-- Where slug characters and hyphens begin with a slug character, it is the end that decides. -/
theorem isSlug_iff_last {chars : List Char} (first : ∀ char, chars.head? = some char → isSlugChar char = true)
    (inside : ∀ char ∈ chars, isSlugChar char = true ∨ char = '-') :
    isSlug chars = true ↔ chars ≠ [] ∧ chars.getLast? ≠ some '-' := by
  rw [isSlug_iff]
  constructor
  · intro slug
    obtain ⟨⟨_, head, _⟩, ⟨last, ends, kept⟩, _⟩ := slug
    refine ⟨?_, ?_⟩
    · intro none
      simp [none] at head
    · intro hyphen
      obtain rfl := Option.some.inj (ends.symm.trans hyphen)
      rw [not_isSlugChar_hyphen] at kept
      cases kept
  · intro both
    obtain ⟨some, uncut⟩ := both
    have head := List.head?_eq_some_head some
    have last := List.getLast?_eq_some_getLast some
    refine ⟨⟨_, head, first _ head⟩, ⟨_, last, ?_⟩, inside⟩
    exact (inside _ (List.getLast_mem some)).resolve_right fun hyphen => uncut (hyphen ▸ last)

section Joined

variable {parts : List (List Char)} (split : ∀ part ∈ parts, part ≠ [] ∧ ∀ char ∈ part, isSlugChar char = true)
include split

theorem isSlug_intercalate : isSlug (['-'].intercalate parts) = true ↔ parts ≠ [] := by
  rw [isSlug_iff_last (fun _ => kept_of_head?_intercalate split) (fun _ => mem_intercalate split), Ne,
    intercalate_eq_nil split]
  refine and_iff_left fun hyphen => ?_
  have kept := kept_of_getLast?_intercalate split hyphen
  rw [not_isSlugChar_hyphen] at kept
  cases kept

/-- What is cut is no slug where there is nothing, or where the cut falls right after a hyphen. -/
theorem isSlug_take {room : Nat} (positive : 0 < room) :
    isSlug ((['-'].intercalate parts).take room) = true ↔ parts ≠ [] ∧ ¬ CutAfterHyphen room parts := by
  have head : ((['-'].intercalate parts).take room).head? = (['-'].intercalate parts).head? := by
    rw [List.head?_take, if_neg positive.ne']
  rw [isSlug_iff_last (fun _ begins => kept_of_head?_intercalate split (head.symm.trans begins))
      (fun _ member => mem_intercalate split (List.mem_of_mem_take member)),
    Ne, Ne, getLast?_take_intercalate split not_isSlugChar_hyphen positive, List.take_eq_nil_iff,
    intercalate_eq_nil split]
  simp [positive.ne']

end Joined

end Slugs

end Aicos.Data
