import Aicos.Extraction.FrameSampler
import Mathlib.Data.List.Forall2

namespace Aicos.Extraction.FrameSampler

open Aicos.Data

/-! The files that ffmpeg leaves for the selection, and the order in which it reads them. -/

/-- `frame_%03d.jpg`, counted from one. -/
def frameName (index : Nat) : String :=
  "frame_" ++ padStart (index + 1) ++ ".jpg"

theorem padStart_toList {number : Nat} (small : number < 1000) :
    (padStart number).toList =
      [Nat.digitChar (number / 100), Nat.digitChar (number / 10 % 10), Nat.digitChar (number % 10)] := by
  have digits : (toString number).toList = Nat.toDigits 10 number := Nat.toList_repr
  rw [padStart, String.toList_ofList, digits]
  rcases (by omega : number < 10 ∨ 10 ≤ number ∧ number < 100 ∨ 100 ≤ number) with one | ⟨ten, two⟩ | three
  · rw [Nat.toDigits_of_lt_base one, show number / 100 = 0 by omega, show number / 10 % 10 = 0 by omega,
      show number % 10 = number by omega]
    rfl
  · rw [Nat.toDigits_of_base_le (by omega) ten, Nat.toDigits_of_lt_base (show number / 10 < 10 by omega),
      show number / 100 = 0 by omega, show number / 10 % 10 = number / 10 by omega]
    rfl
  · rw [Nat.toDigits_of_base_le (by omega) (by omega), Nat.toDigits_of_base_le (by omega) (by omega),
      Nat.toDigits_of_lt_base (show number / 10 / 10 < 10 by omega), show number / 10 / 10 = number / 100 by omega]
    rfl

theorem digitChar_lt {low high : Nat} (lt : low < high) (digit : high < 10) :
    Nat.digitChar low < Nat.digitChar high := by
  have all : ∀ high < 10, ∀ low < high, Nat.digitChar low < Nat.digitChar high := by decide
  exact all high digit low lt

theorem padStart_lt {low high : Nat} (lt : low < high) (small : high < 1000) :
    (padStart low).toList < (padStart high).toList := by
  rw [padStart_toList (by omega), padStart_toList small]
  simp only [List.cons_lt_cons_iff]
  rcases (by omega : low / 100 < high / 100 ∨ low / 100 = high / 100 ∧ (low / 10 % 10 < high / 10 % 10 ∨
      low / 10 % 10 = high / 10 % 10 ∧ low % 10 < high % 10)) with hundreds | ⟨hundreds, tens | ⟨tens, units⟩⟩
  · exact .inl (digitChar_lt hundreds (by omega))
  · exact .inr ⟨congrArg _ hundreds, .inl (digitChar_lt tens (by omega))⟩
  · exact .inr ⟨congrArg _ hundreds, .inr ⟨congrArg _ tens, .inl (digitChar_lt units (by omega))⟩⟩

theorem frameName_toList (index : Nat) :
    (frameName index).toList = "frame_".toList ++ ((padStart (index + 1)).toList ++ ".jpg".toList) := by
  rw [frameName, String.toList_append, String.toList_append, List.append_assoc]

theorem append_right_lt {left right : List Char} (tail : List Char) (same : left.length = right.length)
    (lt : left < right) : left ++ tail < right ++ tail := by
  induction left generalizing right with
  | nil =>
      rw [List.length_eq_zero_iff.mp same.symm] at lt
      exact absurd lt (List.not_lt_nil _)
  | cons first left ih =>
      cases right with
      | nil => simp at same
      | cons other right =>
          rw [List.cons_append, List.cons_append, List.cons_lt_cons_iff]
          rcases List.cons_lt_cons_iff.mp lt with lt | ⟨equal, lt⟩
          · exact .inl lt
          · exact .inr ⟨equal, ih (by simpa using same) lt⟩

/-- Names sort as their numbers do. -/
theorem frameName_lt {low high : Nat} (lt : low < high) (small : high < 999) : frameName low < frameName high := by
  have width : (padStart (low + 1)).toList.length = (padStart (high + 1)).toList.length := by
    rw [padStart_toList (by omega), padStart_toList (by omega)]
    rfl
  rw [String.lt_iff_toList_lt, frameName_toList, frameName_toList]
  exact List.append_left_lt (append_right_lt _ width (padStart_lt (by omega) (by omega)))

theorem isFrameFile_frameName (index : Nat) : isFrameFile (frameName index) = true := by
  rw [isFrameFile, Bool.and_eq_true]
  constructor
  · rw [String.startsWith_string_iff, frameName_toList]
    exact List.prefix_append _ _
  · rw [← String.endsWith_toSlice, String.Slice.endsWith_string_iff, String.copy_toSlice, frameName_toList,
      ← List.append_assoc]
    exact List.suffix_append _ _

theorem frameName_inj {left right : Nat} (leftSmall : left < 999) (rightSmall : right < 999)
    (same : frameName left = frameName right) : left = right := by
  rcases lt_trichotomy left right with lt | equal | lt
  · exact absurd same (frameName_lt lt rightSmall).ne
  · exact equal
  · exact absurd same (frameName_lt lt leftSmall).ne'

theorem isFrameFile_of_foreign {name : String} (other : ¬ "frame_".toList <+: name.toList) :
    isFrameFile name = false := by
  rw [isFrameFile, Bool.and_eq_false_iff, String.startsWith_string_eq_false_iff]
  exact .inl other

theorem frameName_ne {name : String} (other : ¬ "frame_".toList <+: name.toList) (index : Nat) :
    frameName index ≠ name := by
  intro named
  have plain := isFrameFile_of_foreign other
  rw [← named, isFrameFile_frameName] at plain
  exact absurd plain (by decide)

/-- A strip that ffmpeg may not have written. -/
def strip (name : String) (raw : Option Buffer) : Directory :=
  (raw.map fun raw => (name, raw)).toList

/-- What the directory holds once ffmpeg is done, in some order. -/
def written (input : Buffer) (jpegs : List Buffer) (hashes blurs : Option Buffer) : Directory :=
  ("input", input) :: jpegs.mapIdx (fun i jpeg => (frameName i, jpeg)) ++ strip "hashes.gray" hashes ++
    strip "blur.gray" blurs

variable {input : Buffer} {jpegs : List Buffer} {hashes blurs : Option Buffer} {dir : Directory}

theorem mem_strip {name other : String} {raw : Buffer} {held : Option Buffer} :
    (name, raw) ∈ strip other held ↔ name = other ∧ held = some raw := by
  cases held with
  | none => simp [strip]
  | some held => simp [strip, eq_comm]

theorem mem_written {name : String} {raw : Buffer} :
    (name, raw) ∈ written input jpegs hashes blurs ↔
      (name = "input" ∧ raw = input) ∨ (∃ i, frameName i = name ∧ jpegs[i]? = some raw) ∨
      (name = "hashes.gray" ∧ hashes = some raw) ∨ (name = "blur.gray" ∧ blurs = some raw) := by
  have frames : (name, raw) ∈ jpegs.mapIdx (fun i jpeg => (frameName i, jpeg)) ↔
      ∃ i, frameName i = name ∧ jpegs[i]? = some raw := by
    rw [List.mem_mapIdx]
    constructor
    · intro given
      obtain ⟨i, bound, same⟩ := given
      obtain ⟨rfl, rfl⟩ := Prod.mk.inj same
      exact ⟨i, rfl, List.getElem?_eq_getElem bound⟩
    · rintro ⟨i, rfl, found⟩
      obtain ⟨bound, rfl⟩ := List.getElem?_eq_some_iff.mp found
      exact ⟨i, bound, rfl⟩
  simp only [written, List.mem_append, List.mem_cons, mem_strip, frames, Prod.mk.injEq, or_assoc]

theorem readFile_eq {name : String} {held : Option Buffer} (holds : ∀ raw, (name, raw) ∈ dir ↔ held = some raw) :
    dir.readFile name = held := by
  cases found : dir.readFile name with
  | none =>
      cases held with
      | none => rfl
      | some raw =>
          have absent := List.lookup_eq_none_iff.mp found _ ((holds raw).mpr rfl)
          simp at absent
  | some raw =>
      obtain ⟨earlier, later, parts, -⟩ := List.lookup_eq_some_iff.mp found
      exact ((holds raw).mp (by rw [parts]; simp)).symm

theorem filter_strip (name : String) (raw : Option Buffer) (other : ¬ "frame_".toList <+: name.toList) :
    ((strip name raw).map (·.1)).filter isFrameFile = [] := by
  cases raw with
  | none => rfl
  | some raw => exact List.filter_cons_of_neg (ne_true_of_eq_false (isFrameFile_of_foreign other))

theorem frameNames_written (input : Buffer) (jpegs : List Buffer) (hashes blurs : Option Buffer) :
    ((written input jpegs hashes blurs).map (·.1)).filter isFrameFile = (List.range jpegs.length).map frameName := by
  have frames : (jpegs.mapIdx fun i jpeg => (frameName i, jpeg)).map (·.1) = (List.range jpegs.length).map frameName :=
    List.ext_getElem (by simp) fun i _ _ => by simp
  have all : ((List.range jpegs.length).map frameName).filter isFrameFile = (List.range jpegs.length).map frameName := by
    rw [List.filter_eq_self]
    intro name member
    obtain ⟨i, -, rfl⟩ := List.mem_map.mp member
    exact isFrameFile_frameName i
  have source : isFrameFile "input" = false := isFrameFile_of_foreign (by decide)
  rw [written, List.map_append, List.map_append, List.map_cons, List.filter_append, List.filter_append,
    filter_strip "hashes.gray" hashes (by decide), filter_strip "blur.gray" blurs (by decide),
    List.filter_cons_of_neg (ne_true_of_eq_false source), frames, all, List.append_nil, List.append_nil]

section Listing

variable (few : jpegs.length ≤ 999) (listing : dir.Perm (written input jpegs hashes blurs))
include listing

theorem readFile_hashes : dir.readFile "hashes.gray" = hashes := by
  refine readFile_eq fun raw => ?_
  rw [listing.mem_iff, mem_written]
  constructor
  · rintro (⟨named, -⟩ | ⟨i, named, -⟩ | ⟨-, held⟩ | ⟨named, -⟩)
    · exact absurd named (by decide)
    · exact absurd named (frameName_ne (by decide) i)
    · exact held
    · exact absurd named (by decide)
  · exact fun held => .inr (.inr (.inl ⟨rfl, held⟩))

theorem readFile_blur : dir.readFile "blur.gray" = blurs := by
  refine readFile_eq fun raw => ?_
  rw [listing.mem_iff, mem_written]
  constructor
  · rintro (⟨named, -⟩ | ⟨i, named, -⟩ | ⟨named, -⟩ | ⟨-, held⟩)
    · exact absurd named (by decide)
    · exact absurd named (frameName_ne (by decide) i)
    · exact absurd named (by decide)
    · exact held
  · exact fun held => .inr (.inr (.inr ⟨rfl, held⟩))

include few

theorem readFile_frame {i : Nat} (inside : i < jpegs.length) : dir.readFile (frameName i) = jpegs[i]? := by
  refine readFile_eq fun raw => ?_
  rw [listing.mem_iff, mem_written]
  constructor
  · rintro (⟨named, -⟩ | ⟨j, named, held⟩ | ⟨named, -⟩ | ⟨named, -⟩)
    · exact absurd named (frameName_ne (by decide) i)
    · obtain ⟨bound, -⟩ := List.getElem?_eq_some_iff.mp held
      rw [← frameName_inj (by omega) (by omega) named]
      exact held
    · exact absurd named (frameName_ne (by decide) i)
    · exact absurd named (frameName_ne (by decide) i)
  · exact fun held => .inr (.inl ⟨i, rfl, held⟩)

/-- Sorted by name, the frames are in the order in which ffmpeg numbered them. -/
theorem frameFiles_written : frameFiles dir = (List.range jpegs.length).map frameName := by
  have ascending : ((List.range jpegs.length).map frameName).Pairwise (· ≤ ·) := by
    rw [List.pairwise_map]
    refine List.pairwise_lt_range.imp_of_mem fun _ member lt => ?_
    exact (frameName_lt lt (by have := List.mem_range.mp member; omega)).le
  have sorted : (frameFiles dir).Pairwise (· ≤ ·) :=
    pairwise_mergeSort_of_le (· ≤ ·) (fun _ _ _ => le_trans) le_total _
  refine List.Perm.eq_of_pairwise (fun _ _ _ _ => le_antisymm) sorted ascending ?_
  rw [← frameNames_written input jpegs hashes blurs]
  exact (List.mergeSort_perm _ _).trans ((listing.map _).filter _)

/-- The files are read back as the frames that were written. -/
theorem mapM_readFile_written : (frameFiles dir).mapM dir.readFile = some jpegs := by
  have read : List.Forall₂ (fun name jpeg => dir.readFile name = some jpeg) (frameFiles dir) jpegs := by
    rw [frameFiles_written few listing, List.forall₂_iff_get]
    refine ⟨by simp, fun i _ inside => ?_⟩
    rw [List.get_eq_getElem, List.get_eq_getElem, List.getElem_map, List.getElem_range,
      readFile_frame few listing inside, List.getElem?_eq_getElem inside]
  generalize frameFiles dir = names at read
  clear few listing
  induction read with
  | nil => rfl
  | cons head _ ih => rw [List.mapM_cons, head, ih]; rfl

theorem selectFrames_written (fps : Double) :
    selectFrames fps dir = some ((dropDuplicates (pruneBlurred
      (workFrames fps jpegs (readHashes hashes) (readBlurs blurs)))).map WorkFrame.videoFrame) := by
  rw [selectFrames, mapM_readFile_written few listing, readFile_hashes listing, readFile_blur listing]
  rfl

end Listing

end Aicos.Extraction.FrameSampler
