import Mathlib.Data.List.Induction
import Mathlib.Data.List.Nodup
import Mathlib.Order.Lattice

namespace Aicos.Data

/-! The best value under each key, in one pass over a list: a later value takes
the place of an earlier one only if its score is greater. -/

variable {α κ σ : Type*} [LinearOrder σ] (key : α → κ) (score : α → σ)

/-- Of the values under its key, the first with the greatest score. -/
def FirstBest (values : List α) (value : α) : Prop :=
  ∃ before after, values = before ++ value :: after ∧
    (∀ other ∈ before, key other = key value → score other < score value) ∧
    ∀ other ∈ after, key other = key value → score other ≤ score value

section FirstBest

variable {key score} {values : List α} {value other : α}

theorem firstBest_concat :
    FirstBest key score (values ++ [value]) other ↔
      (FirstBest key score values other ∧ (key other = key value → score value ≤ score other)) ∨
        (other = value ∧ ∀ earlier ∈ values, key earlier = key value → score earlier < score value) := by
  constructor
  · intro given
    obtain ⟨before, after, split, first, later⟩ := given
    rcases List.eq_nil_or_concat after with rfl | ⟨rest, last, rfl⟩
    · obtain ⟨rfl, same⟩ := List.append_inj' split rfl
      obtain rfl : value = other := by simpa using same
      exact .inr ⟨rfl, first⟩
    · rw [List.concat_eq_append, ← List.cons_append, ← List.append_assoc] at split
      obtain ⟨rfl, same⟩ := List.append_inj' split rfl
      obtain rfl : value = last := by simpa using same
      refine .inl ⟨⟨before, rest, rfl, first, fun q member => later q (by simp [member])⟩, fun same => ?_⟩
      exact later value (by simp) same.symm
  · rintro (⟨⟨before, after, rfl, first, later⟩, last⟩ | ⟨rfl, all⟩)
    · refine ⟨before, after ++ [value], by simp, first, fun q member under => ?_⟩
      rcases List.mem_append.mp member with old | new
      · exact later q old under
      · rw [List.mem_singleton.mp new] at under ⊢
        exact last under.symm
    · exact ⟨values, [], rfl, all, by simp⟩

theorem firstBest_mem (first : FirstBest key score values value) : value ∈ values := by
  obtain ⟨before, after, rfl, _⟩ := first
  simp

theorem firstBest_dominates (first : FirstBest key score values value) :
    ∀ other ∈ values, key other = key value → score other ≤ score value := by
  obtain ⟨before, after, rfl, earlier, later⟩ := first
  intro other member same
  rcases List.mem_append.mp member with old | new
  · exact le_of_lt (earlier other old same)
  · rcases List.mem_cons.mp new with rfl | new
    · exact le_refl _
    · exact later other new same

/-- Under the key of every value there is a first best one. -/
theorem firstBest_exists (member : value ∈ values) :
    ∃ other, FirstBest key score values other ∧ key other = key value := by
  induction values using List.reverseRecOn generalizing value with
  | nil => cases member
  | append_singleton values last ih =>
      by_cases present : ∃ earlier ∈ values, key earlier = key value
      · obtain ⟨earlier, old, under⟩ := present
        obtain ⟨other, first, same⟩ := ih old
        by_cases replaced : key last = key other ∧ score other < score last
        · refine ⟨last, firstBest_concat.mpr (.inr ⟨rfl, fun q there also => ?_⟩),
            replaced.1.trans (same.trans under)⟩
          exact lt_of_le_of_lt (firstBest_dominates first q there (also.trans replaced.1)) replaced.2
        · refine ⟨other, firstBest_concat.mpr (.inl ⟨first, fun also => ?_⟩), same.trans under⟩
          exact not_lt.mp fun better => replaced ⟨also.symm, better⟩
      · have final : value = last := by
          rcases List.mem_append.mp member with old | new
          · exact absurd ⟨value, old, rfl⟩ present
          · exact List.mem_singleton.mp new
        refine ⟨last, firstBest_concat.mpr (.inr ⟨rfl, fun q there also => ?_⟩), congrArg key final.symm⟩
        exact absurd ⟨q, there, also.trans (congrArg key final.symm)⟩ present

end FirstBest

variable [DecidableEq κ]

def putBest (kept : List α) (value : α) : List α :=
  match kept.find? fun other => key other = key value with
  | none => kept ++ [value]
  | some existing =>
      if score existing < score value then kept.map fun other => if key other = key value then value else other
      else kept

def best (values : List α) : List α :=
  values.foldl (putBest key score) []

variable {key score} {kept values : List α} {value other : α}

theorem best_concat : best key score (values ++ [value]) = putBest key score (best key score values) value := by
  simp [best]

theorem putBest_keys (kept : List α) (value : α) :
    (putBest key score kept value).map key =
      if key value ∈ kept.map key then kept.map key else kept.map key ++ [key value] := by
  unfold putBest
  cases found : kept.find? fun other => key other = key value with
  | none =>
      have absent : key value ∉ kept.map key := by
        rw [List.find?_eq_none] at found
        simpa using found
      simp [absent]
  | some existing =>
      have present : key value ∈ kept.map key := by
        have same : key existing = key value := by simpa using List.find?_some found
        exact same ▸ List.mem_map_of_mem (List.mem_of_find?_eq_some found)
      rw [if_pos present]
      dsimp only
      split
      · rw [List.map_map]
        apply List.map_congr_left
        intro other _
        by_cases same : key other = key value <;> simp [same]
      · rfl

theorem best_nodup (values : List α) : ((best key score values).map key).Nodup := by
  induction values using List.reverseRecOn with
  | nil => exact List.nodup_nil
  | append_singleton values value ih =>
      rw [best_concat, putBest_keys]
      split
      · exact ih
      · rename_i absent
        exact List.nodup_append.mpr ⟨ih, List.nodup_singleton _, by
          intro other member last final same
          rw [List.mem_singleton] at final
          exact absent (final ▸ same ▸ member)⟩

/-- Values of different keys are all kept, where they stand. -/
theorem best_of_nodup (distinct : (values.map key).Nodup) : best key score values = values := by
  induction values using List.reverseRecOn with
  | nil => rfl
  | append_singleton values value ih =>
      rw [List.map_append] at distinct
      obtain ⟨before, -, apart⟩ := List.nodup_append.mp distinct
      have absent : (values.find? fun other => key other = key value) = none := by
        rw [List.find?_eq_none]
        intro other member same
        exact apart (key other) (List.mem_map_of_mem member) (key value) (by simp) (of_decide_eq_true same)
      rw [best_concat, ih before, putBest, absent]

theorem mem_putBest (distinct : (kept.map key).Nodup) :
    other ∈ putBest key score kept value ↔
      (other ∈ kept ∧ (key other = key value → score value ≤ score other)) ∨
        (other = value ∧ ∀ earlier ∈ kept, key earlier = key value → score earlier < score value) := by
  unfold putBest
  cases found : kept.find? fun other => key other = key value with
  | none =>
      have absent : ∀ earlier ∈ kept, key earlier ≠ key value := by
        intro earlier member
        simpa using List.find?_eq_none.mp found earlier member
      rw [List.mem_append, List.mem_singleton]
      refine or_congr ?_ ?_
      · exact ⟨fun member => ⟨member, fun same => absurd same (absent other member)⟩, And.left⟩
      · exact ⟨fun same => ⟨same, fun earlier member under => absurd under (absent earlier member)⟩, And.left⟩
  | some existing =>
      have present := List.mem_of_find?_eq_some found
      have under : key existing = key value := by simpa using List.find?_some found
      have only : ∀ earlier ∈ kept, key earlier = key value → earlier = existing :=
        fun earlier member same => List.inj_on_of_nodup_map distinct member present (same.trans under.symm)
      dsimp only
      split
      · rename_i better
        rw [List.mem_map]
        constructor
        · rintro ⟨earlier, member, rfl⟩
          by_cases same : key earlier = key value
          · rw [if_pos same]
            refine .inr ⟨rfl, fun other found under => ?_⟩
            rw [only other found under]
            exact better
          · rw [if_neg same]
            exact .inl ⟨member, fun under => absurd under same⟩
        · rintro (⟨member, kept⟩ | ⟨rfl, _⟩)
          · have apart : key other ≠ key value := fun same => by
              obtain rfl := only other member same
              exact absurd (kept same) (not_le.mpr better)
            exact ⟨other, member, if_neg apart⟩
          · exact ⟨existing, present, if_pos under⟩
      · rename_i worse
        constructor
        · intro member
          refine .inl ⟨member, fun same => ?_⟩
          rw [only other member same]
          exact not_lt.mp worse
        · rintro (⟨member, _⟩ | ⟨_, beaten⟩)
          · exact member
          · exact absurd (beaten existing present under) worse

theorem mem_best : value ∈ best key score values ↔ FirstBest key score values value := by
  induction values using List.reverseRecOn generalizing value with
  | nil => simp [best, FirstBest]
  | append_singleton values last ih =>
      rw [best_concat, mem_putBest (best_nodup values), firstBest_concat, ih]
      refine or_congr Iff.rfl (and_congr_right fun _ => ?_)
      constructor
      · intro all earlier member under
        obtain ⟨other, first, same⟩ : ∃ other, FirstBest key score values other ∧ key other = key earlier :=
          firstBest_exists member
        have better := firstBest_dominates first earlier member same.symm
        exact lt_of_le_of_lt better (all other (ih.mpr first) (same.trans under))
      · intro all earlier member under
        exact all earlier (firstBest_mem (ih.mp member)) under

theorem firstBest_unique (first : FirstBest key score values value) (second : FirstBest key score values other)
    (same : key value = key other) : value = other :=
  List.inj_on_of_nodup_map (best_nodup values) (mem_best.mpr first) (mem_best.mpr second) same

section Splits

theorem filterMap_split {β : Type*} {f : α → Option β} {before after : List β} {value : β}
    (split : values.filterMap f = before ++ value :: after) :
    ∃ left source right, values = left ++ source :: right ∧ left.filterMap f = before ∧ f source = some value ∧
      right.filterMap f = after := by
  obtain ⟨left, rest, rfl, first, later⟩ := List.filterMap_eq_append_iff.mp split
  obtain ⟨skipped, source, right, rfl, none, found, following⟩ := List.filterMap_eq_cons_iff.mp later
  refine ⟨left ++ skipped, source, right, by simp, ?_, found, following⟩
  rw [List.filterMap_append, first, List.filterMap_eq_nil_iff.mpr none, List.append_nil]

theorem append_split {first second left right : List α} (split : first ++ second = left ++ value :: right) :
    value ∈ first ∨ ∃ between, left = first ++ between ∧ second = between ++ value :: right := by
  rcases List.append_eq_append_iff.mp split with ⟨between, rfl, rest⟩ | ⟨between, rfl, rest⟩
  · exact .inr ⟨between, rfl, rest⟩
  · cases between with
    | nil => exact .inr ⟨[], by simp, rest.symm⟩
    | cons next others =>
        obtain ⟨rfl, _⟩ := List.cons.inj rest
        exact .inl (by simp)

end Splits

end Aicos.Data
