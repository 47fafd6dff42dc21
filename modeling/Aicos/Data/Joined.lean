import Mathlib.Data.List.Basic

namespace Aicos.Data

/-! Two parts with a doubled separator between them.  A part without the separator can be told
from the rest, at the front and at the back. -/

section Joined

variable {α : Type*} (separator : α)

def joined (left right : List α) : List α :=
  left ++ separator :: separator :: right

variable {separator} {left right left' right' : List α}

theorem joined_assoc (first middle last : List α) :
    joined separator first (joined separator middle last) =
      joined separator (joined separator first middle) last := by
  simp [joined]

theorem reverse_joined (left right : List α) :
    (joined separator left right).reverse = joined separator right.reverse left.reverse := by
  simp [joined]

/-- No part without the separator reaches beyond one. -/
theorem eq_nil_of_append {whole more tail tail' : List α} (free : separator ∉ whole) (longer : whole = left ++ more)
    (rest : separator :: tail = more ++ separator :: tail') : more = [] := by
  cases more with
  | nil => rfl
  | cons first others =>
      have inside : separator ∈ whole := by
        rw [longer, (List.cons.inj rest).1]
        simp
      exact absurd inside free

theorem joined_inj_left (front : separator ∉ left) (front' : separator ∉ left') :
    joined separator left right = joined separator left' right' ↔ left = left' ∧ right = right' := by
  constructor
  · intro same
    rcases List.append_eq_append_iff.mp same with ⟨more, longer, rest⟩ | ⟨more, longer, rest⟩
    · obtain rfl := eq_nil_of_append front' longer rest
      exact ⟨by simpa using longer.symm, by simpa using rest⟩
    · obtain rfl := eq_nil_of_append front longer rest
      exact ⟨by simpa using longer, by simpa using rest.symm⟩
  · intro both
    rw [both.1, both.2]

theorem joined_inj_right (back : separator ∉ right) (back' : separator ∉ right') :
    joined separator left right = joined separator left' right' ↔ left = left' ∧ right = right' := by
  rw [← List.reverse_inj, reverse_joined, reverse_joined,
    joined_inj_left (by rwa [List.mem_reverse]) (by rwa [List.mem_reverse]), List.reverse_inj, List.reverse_inj]
  exact and_comm

end Joined

end Aicos.Data
