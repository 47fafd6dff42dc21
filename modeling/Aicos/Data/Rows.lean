import Mathlib.Algebra.BigOperators.Group.List.Basic
import Mathlib.Algebra.Order.BigOperators.Group.List
import Mathlib.Data.Int.Basic
import Mathlib.Data.List.Nodup
import Mathlib.Data.List.Perm.Subperm
import Mathlib.Tactic.Linarith

namespace Aicos.Data

/-! Tables as lists of rows: updates of the rows a condition selects, and totals
of a column over the rows a condition selects. -/

variable {α β : Type*}

/-- `UPDATE ... SET change WHERE selected`. -/
def updateWhere (selected : α → Bool) (change : α → α) (rows : List α) : List α :=
  rows.map fun row => if selected row then change row else row

section Update

variable {selected : α → Bool} {change : α → α} {rows : List α}

@[simp] theorem updateWhere_nil : updateWhere selected change [] = [] := rfl

@[simp] theorem updateWhere_cons (row : α) :
    updateWhere selected change (row :: rows) =
      (if selected row then change row else row) :: updateWhere selected change rows := rfl

theorem mem_updateWhere {row : α} :
    row ∈ updateWhere selected change rows ↔
      ∃ old ∈ rows, (if selected old then change old else old) = row :=
  List.mem_map

theorem updateWhere_of_forall_not (none : ∀ row ∈ rows, selected row = false) :
    updateWhere selected change rows = rows := by
  induction rows with
  | nil => rfl
  | cons row rest ih =>
      rw [updateWhere_cons, none row (by simp), ih fun other member => none other (by simp [member])]
      rfl

/-- An update leaves the rows that it does not select where they are and as they are. -/
theorem forall₂_updateWhere (selected : α → Bool) (change : α → α) (rows : List α) :
    List.Forall₂ (fun old new => selected old = false → new = old) rows (updateWhere selected change rows) := by
  induction rows with
  | nil => exact .nil
  | cons row rest ih =>
      refine .cons (fun beside => ?_) ih
      dsimp only
      rw [beside, if_neg Bool.false_ne_true]

theorem filter_updateWhere {keep : α → Bool}
    (same : ∀ row ∈ rows, selected row = true → keep (change row) = keep row) :
    (updateWhere selected change rows).filter keep = updateWhere selected change (rows.filter keep) := by
  induction rows with
  | nil => rfl
  | cons row rest ih =>
      have later := ih fun other member => same other (by simp [member])
      have first : keep (if selected row then change row else row) = keep row := by
        by_cases hit : selected row = true
        · simpa [hit] using same row (by simp) hit
        · simp [hit]
      rw [updateWhere_cons, List.filter_cons, first, later, List.filter_cons]
      by_cases kept : keep row = true <;> simp [kept]

theorem map_updateWhere {column : α → β} (kept : ∀ row, column (change row) = column row) :
    (updateWhere selected change rows).map column = rows.map column := by
  simp only [updateWhere, List.map_map]
  apply List.map_congr_left
  intro row member
  by_cases hit : selected row <;> simp [hit, kept]

/-- Where one row at most is wanted, the order of the rows does not matter. -/
theorem find?_eq_of_perm {wanted : α → Bool} {left right : List α} (perm : left.Perm right)
    (single : ∀ row ∈ left, ∀ other ∈ left, wanted row = true → wanted other = true → row = other) :
    left.find? wanted = right.find? wanted := by
  cases found : left.find? wanted with
  | none =>
      have none := List.find?_eq_none.mp found
      exact (List.find?_eq_none.mpr fun row member => none row (perm.mem_iff.mpr member)).symm
  | some row =>
      have member := List.mem_of_find?_eq_some found
      have hit : wanted row = true := List.find?_some found
      cases again : right.find? wanted with
      | none => exact absurd hit (List.find?_eq_none.mp again row (perm.mem_iff.mp member))
      | some other =>
          have present := perm.mem_iff.mpr (List.mem_of_find?_eq_some again)
          exact congrArg some (single row member other present hit (List.find?_some again))

theorem find?_updateWhere {wanted : α → Bool} (kept : ∀ row, wanted (change row) = wanted row) :
    (updateWhere selected change rows).find? wanted =
      (rows.find? wanted).map fun row => if selected row then change row else row := by
  induction rows with
  | nil => rfl
  | cons row rest ih =>
      have same : wanted (if selected row then change row else row) = wanted row := by
        by_cases hit : selected row <;> simp [hit, kept]
      simp only [updateWhere_cons, List.find?_cons, same]
      cases wanted row with
      | true => rfl
      | false => exact ih

theorem find?_updateWhere_key [DecidableEq β] {key : α → β} {wanted : β}
    (kept : ∀ row, key (change row) = key row) :
    (updateWhere selected change rows).find? (fun row => key row = wanted) =
      (rows.find? fun row => key row = wanted).map fun row => if selected row then change row else row :=
  find?_updateWhere fun row => by rw [kept row]

theorem find?_of_key [DecidableEq β] {key : α → β} {row : α} (distinct : (rows.map key).Nodup) (member : row ∈ rows) :
    rows.find? (fun other => key other = key row) = some row := by
  cases found : rows.find? fun other => key other = key row with
  | none => simpa using List.find?_eq_none.mp found row member
  | some other =>
      have same : key other = key row := by simpa using List.find?_some found
      rw [List.inj_on_of_nodup_map distinct (List.mem_of_find?_eq_some found) member same]

theorem filter_of_key [DecidableEq β] {key : α → β} {row : α} (distinct : (rows.map key).Nodup) (member : row ∈ rows) :
    rows.filter (fun other => key other = key row) = [row] := by
  induction rows with
  | nil => cases member
  | cons first rest ih =>
      rw [List.map_cons, List.nodup_cons] at distinct
      obtain ⟨absent, distinct⟩ := distinct
      rw [List.filter_cons]
      by_cases same : key first = key row
      · have none_later : rest.filter (fun other => key other = key row) = [] := by
          refine List.filter_eq_nil_iff.mpr fun other later hit => absent ?_
          exact List.mem_map.mpr ⟨other, later, (of_decide_eq_true hit).trans same.symm⟩
        have here : row = first := by
          obtain here | later := List.mem_cons.mp member
          · exact here
          · exact absurd (List.mem_map.mpr ⟨row, later, same.symm⟩) absent
        rw [if_pos (decide_eq_true same), none_later, here]
      · have later : row ∈ rest := by
          obtain rfl | later := List.mem_cons.mp member
          · exact absurd rfl same
          · exact later
        rw [if_neg (by simpa using same), ih distinct later]

end Update

section Parts

variable {α : Type*} {rows : List α} (inside : α → Bool) {wanted : α → Bool}

/-- A search for rows of a part goes through that part only. -/
theorem find?_within (part : ∀ row ∈ rows, wanted row = true → inside row = true) :
    rows.find? wanted = (rows.filter inside).find? wanted := by
  induction rows with
  | nil => rfl
  | cons row rest ih =>
      have later := ih fun other member => part other (List.mem_cons_of_mem row member)
      rw [List.find?_cons, List.filter_cons]
      cases wants : wanted row with
      | true => rw [part row List.mem_cons_self wants, if_pos rfl, List.find?_cons, wants]
      | false =>
          by_cases kept : inside row = true
          · rw [if_pos kept, List.find?_cons, wants]
            exact later
          · rw [if_neg kept]
            exact later

theorem find?_congr_of_mem {other : α → Bool} (same : ∀ row ∈ rows, wanted row = other row) :
    rows.find? wanted = rows.find? other := by
  induction rows with
  | nil => rfl
  | cons row rest ih =>
      rw [List.find?_cons, List.find?_cons, same row List.mem_cons_self,
        ih fun later member => same later (List.mem_cons_of_mem row member)]

theorem find?_of_only {row : α} (member : row ∈ rows) (wants : wanted row = true)
    (only : ∀ other ∈ rows, wanted other = true → other = row) : rows.find? wanted = some row := by
  cases found : rows.find? wanted with
  | none => exact absurd wants (List.find?_eq_none.mp found row member)
  | some other => rw [only other (List.mem_of_find?_eq_some found) (List.find?_some found)]

theorem filter_within (part : ∀ row ∈ rows, wanted row = true → inside row = true) :
    rows.filter wanted = (rows.filter inside).filter wanted := by
  rw [List.filter_filter]
  refine List.filter_congr fun row member => ?_
  cases wants : wanted row with
  | true => rw [part row member wants, Bool.true_and]
  | false => rw [Bool.false_and]

end Parts

/-- `SELECT SUM(amount) ... WHERE selected`. -/
def totalWhere (selected : α → Bool) (amount : α → Int) (rows : List α) : Int :=
  ((rows.filter selected).map amount).sum

section Total

variable {selected : α → Bool} {amount : α → Int} {rows : List α}

@[simp] theorem totalWhere_nil : totalWhere selected amount [] = 0 := rfl

@[simp] theorem totalWhere_cons (row : α) :
    totalWhere selected amount (row :: rows) =
      (if selected row then amount row else 0) + totalWhere selected amount rows := by
  by_cases hit : selected row <;> simp [totalWhere, hit]

@[simp] theorem totalWhere_append (left right : List α) :
    totalWhere selected amount (left ++ right) =
      totalWhere selected amount left + totalWhere selected amount right := by
  simp [totalWhere]

theorem totalWhere_of_forall_not (none : ∀ row ∈ rows, selected row = false) :
    totalWhere selected amount rows = 0 := by
  induction rows with
  | nil => rfl
  | cons row rest ih =>
      rw [totalWhere_cons, none row (by simp), ih fun other member => none other (by simp [member])]
      rfl

theorem totalWhere_nonneg (nonneg : ∀ row ∈ rows, 0 ≤ amount row) :
    0 ≤ totalWhere selected amount rows := by
  apply List.sum_nonneg
  intro value member
  obtain ⟨row, kept, rfl⟩ := List.mem_map.mp member
  exact nonneg row (List.mem_of_mem_filter kept)

theorem totalWhere_perm {other : List α} (perm : rows.Perm other) :
    totalWhere selected amount rows = totalWhere selected amount other :=
  ((perm.filter selected).map amount).sum_eq

theorem totalWhere_eq_sum :
    totalWhere selected amount rows = (rows.map fun row => if selected row then amount row else 0).sum := by
  induction rows with
  | nil => rfl
  | cons row rest ih => rw [totalWhere_cons, ih, List.map_cons, List.sum_cons]

/-- The total over the one row of a key is its own amount. -/
theorem totalWhere_key [DecidableEq β] {key : α → β} {row : α} (distinct : (rows.map key).Nodup) (member : row ∈ rows) :
    totalWhere (fun other => key other = key row) amount rows = amount row := by
  induction rows with
  | nil => cases member
  | cons first rest ih =>
      obtain ⟨fresh, distinct⟩ := List.nodup_cons.mp distinct
      rw [totalWhere_cons]
      cases List.mem_cons.mp member with
      | inl same =>
          subst same
          have others : ∀ other ∈ rest, decide (key other = key row) = false := by
            intro other present
            have apart : key other ≠ key row := fun equal => fresh (List.mem_map.mpr ⟨other, present, equal⟩)
            simpa using apart
          rw [totalWhere_of_forall_not others]
          simp
      | inr later =>
          have apart : key first ≠ key row := fun equal => fresh (List.mem_map.mpr ⟨row, later, equal.symm⟩)
          rw [ih distinct later]
          simp [apart]

/-- Updating the one row of a key moves a total by what that row contributes. -/
theorem totalWhere_updateWhere_key [DecidableEq β] {key : α → β} {wanted : β} {change : α → α} {row : α}
    (distinct : (rows.map key).Nodup) (member : row ∈ rows) (same : key row = wanted) :
    totalWhere selected amount (updateWhere (fun other => key other = wanted) change rows) =
      totalWhere selected amount rows - (if selected row then amount row else 0) +
        if selected (change row) then amount (change row) else 0 := by
  induction rows with
  | nil => cases member
  | cons first rest ih =>
      obtain ⟨fresh, distinct⟩ := List.nodup_cons.mp distinct
      rw [updateWhere_cons, totalWhere_cons, totalWhere_cons]
      rcases List.mem_cons.mp member with rfl | later
      · have others : ∀ other ∈ rest, decide (key other = wanted) = false := by
          intro other present
          have apart : key other ≠ wanted := fun equal =>
            fresh (List.mem_map.mpr ⟨other, present, equal.trans same.symm⟩)
          simpa using apart
        rw [updateWhere_of_forall_not others]
        simp only [same, decide_true, if_true]
        omega
      · have apart : key first ≠ wanted := fun equal =>
          fresh (List.mem_map.mpr ⟨row, later, same.trans equal.symm⟩)
        simp only [apart, decide_false, ih distinct later]
        simp only [Bool.false_eq_true, if_false]
        omega

end Total

theorem sum_le_of_nodup_subset {amount : α → Int} {few many : List α} (distinct : few.Nodup)
    (subset : few ⊆ many) (nonneg : ∀ entry ∈ many, 0 ≤ amount entry) :
    (few.map amount).sum ≤ (many.map amount).sum := by
  obtain ⟨middle, perm, sublist⟩ := List.subperm_of_subset distinct subset
  rw [← (perm.map amount).sum_eq]
  apply (sublist.map amount).sum_le_sum
  intro value member
  obtain ⟨entry, present, rfl⟩ := List.mem_map.mp member
  exact nonneg entry present

end Aicos.Data
