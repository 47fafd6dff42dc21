import Mathlib.Computability.StateTransition
import Mathlib.Data.Nat.Find
import Mathlib.Data.Set.Finite.List
import Mathlib.Order.Interval.Set.Infinite

namespace Aicos.Data

/-! `while` loops as partial functions of their state.  The body is `none` where the condition
fails, and `final ∈ eval body start` says that the loop ends, and how. -/

section While

open StateTransition

variable {σ : Type*} {body : σ → Option σ} {state next final : σ}

theorem mem_eval_of_none (done : body state = none) : state ∈ eval body state :=
  mem_eval.mpr ⟨.refl, done⟩

theorem mem_eval_of_some (turn : body state = some next) (ends : final ∈ eval body next) :
    final ∈ eval body state := by
  obtain ⟨reaches, done⟩ := mem_eval.mp ends
  exact mem_eval.mpr ⟨.head turn reaches, done⟩

end While

/-! Numbered names, tried one after another until one is free. -/

section Probing

variable {α : Type*} {name : ℕ → α}

/-- Finitely many taken names leave one of infinitely many. -/
theorem exists_free (distinct : name.Injective) (taken : List α) (start : ℕ) :
    ∃ number, start ≤ number ∧ name number ∉ taken := by
  by_contra! all
  have infinite : (Set.image name (Set.Ici start)).Infinite := (Set.Ici_infinite start).image distinct.injOn
  refine infinite (taken.finite_toSet.subset ?_)
  intro value reached
  obtain ⟨number, above, rfl⟩ := reached
  exact all number above

variable [DecidableEq α]

theorem find_free_succ (distinct : name.Injective) {taken : List α} {start : ℕ} (used : name start ∈ taken) :
    Nat.find (exists_free distinct taken (start + 1)) = Nat.find (exists_free distinct taken start) := by
  obtain ⟨above, free⟩ := Nat.find_spec (exists_free distinct taken start)
  have later : Nat.find (exists_free distinct taken start) ≠ start := by
    intro same
    rw [same] at free
    exact free used
  refine (Nat.find_eq_iff _).mpr ⟨⟨by omega, free⟩, ?_⟩
  intro number before candidate
  exact Nat.find_min (exists_free distinct taken start) before ⟨by omega, candidate.2⟩

/-- `while (taken.has(name(number))) number += 1`. -/
def firstFree (distinct : name.Injective) (taken : List α) (number : ℕ) : ℕ :=
  if name number ∈ taken then firstFree distinct taken (number + 1) else number
termination_by Nat.find (exists_free distinct taken number) - number
decreasing_by
  rename_i used
  rw [find_free_succ distinct used]
  have above := (Nat.find_spec (exists_free distinct taken (number + 1))).1
  rw [find_free_succ distinct used] at above
  omega

/-- A turn of the loop. -/
def probe (name : ℕ → α) (taken : List α) (number : ℕ) : Option ℕ :=
  if name number ∈ taken then some (number + 1) else none

variable (distinct : name.Injective) (taken : List α) (start : ℕ)

theorem probe_ends : firstFree distinct taken start ∈ StateTransition.eval (probe name taken) start := by
  induction start using firstFree.induct distinct taken with
  | case1 number used ih =>
      rw [firstFree, if_pos used]
      exact mem_eval_of_some (if_pos used) ih
  | case2 number free =>
      rw [firstFree, if_neg free]
      exact mem_eval_of_none (if_neg free)

theorem firstFree_eq_find : firstFree distinct taken start = Nat.find (exists_free distinct taken start) := by
  induction start using firstFree.induct distinct taken with
  | case1 number used ih => rw [firstFree, if_pos used, ih, find_free_succ distinct used]
  | case2 number free =>
      rw [firstFree, if_neg free]
      symm
      exact (Nat.find_eq_iff _).mpr ⟨⟨le_rfl, free⟩, fun _ before candidate => absurd candidate.1 before.not_ge⟩

theorem firstFree_free : start ≤ firstFree distinct taken start ∧ name (firstFree distinct taken start) ∉ taken := by
  rw [firstFree_eq_find]
  exact Nat.find_spec (exists_free distinct taken start)

variable {taken start}

theorem taken_of_lt_firstFree {number : ℕ} (above : start ≤ number)
    (before : number < firstFree distinct taken start) : name number ∈ taken := by
  rw [firstFree_eq_find] at before
  by_contra free
  exact Nat.find_min (exists_free distinct taken start) before ⟨above, free⟩

end Probing

end Aicos.Data
