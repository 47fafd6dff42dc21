import Mathlib.Data.List.Basic

namespace Aicos.Transition

/-! Runs of a labelled step function.

A label that is not enabled leaves the state unchanged, so every list of labels
is a schedule and the quantification over interleavings is the quantification
over label lists.
-/

variable {σ ℓ : Type*} {step : σ → ℓ → σ}

def run (step : σ → ℓ → σ) (start : σ) (trace : List ℓ) : σ :=
  trace.foldl step start

@[simp] theorem run_nil (start : σ) : run step start [] = start := rfl

@[simp] theorem run_cons (start : σ) (label : ℓ) (rest : List ℓ) :
    run step start (label :: rest) = run step (step start label) rest := rfl

theorem run_append (start : σ) (left right : List ℓ) :
    run step start (left ++ right) = run step (run step start left) right :=
  List.foldl_append

/-- Every step of the run, seen with the state it is taken in, satisfies `guard`. -/
def Along (step : σ → ℓ → σ) (guard : σ → ℓ → Prop) : σ → List ℓ → Prop
  | _, [] => True
  | state, label :: rest => guard state label ∧ Along step guard (step state label) rest

/-- Every state of the run, the first one included, satisfies `good`. -/
def Visits (step : σ → ℓ → σ) (good : σ → Prop) : σ → List ℓ → Prop
  | state, [] => good state
  | state, label :: rest => good state ∧ Visits step good (step state label) rest

theorem along_of_all {guard : σ → ℓ → Prop} (all : ∀ state label, guard state label)
    (start : σ) (trace : List ℓ) : Along step guard start trace := by
  induction trace generalizing start with
  | nil => trivial
  | cons label rest ih => exact ⟨all start label, ih (step start label)⟩

theorem Along.append {guard : σ → ℓ → Prop} {start : σ} {left right : List ℓ} (first : Along step guard start left)
    (second : Along step guard (run step start left) right) : Along step guard start (left ++ right) := by
  induction left generalizing start with
  | nil => exact second
  | cons label rest ih => exact ⟨first.1, ih first.2 second⟩

theorem Along.mono {weak strong : σ → ℓ → Prop} {start : σ} {trace : List ℓ}
    (imp : ∀ state label, strong state label → weak state label)
    (along : Along step strong start trace) : Along step weak start trace := by
  induction trace generalizing start with
  | nil => trivial
  | cons label rest ih => exact ⟨imp _ _ along.1, ih along.2⟩

theorem along_congr {left right : σ → ℓ → Prop} (same : ∀ state label, left state label ↔ right state label)
    (start : σ) (trace : List ℓ) : Along step left start trace ↔ Along step right start trace :=
  ⟨Along.mono fun state label => (same state label).mp, Along.mono fun state label => (same state label).mpr⟩

theorem Along.and {left right : σ → ℓ → Prop} {start : σ} {trace : List ℓ}
    (first : Along step left start trace) (second : Along step right start trace) :
    Along step (fun state label => left state label ∧ right state label) start trace := by
  induction trace generalizing start with
  | nil => trivial
  | cons label rest ih => exact ⟨⟨first.1, second.1⟩, ih first.2 second.2⟩

theorem along_of_forall {guard : ℓ → Prop} {start : σ} {trace : List ℓ}
    (all : ∀ label ∈ trace, guard label) : Along step (fun _ label => guard label) start trace := by
  induction trace generalizing start with
  | nil => trivial
  | cons label rest ih =>
      exact ⟨all label (by simp), ih (fun other member => all other (by simp [member]))⟩

theorem Visits.last {good : σ → Prop} {start : σ} {trace : List ℓ}
    (visits : Visits step good start trace) : good (run step start trace) := by
  induction trace generalizing start with
  | nil => exact visits
  | cons label rest ih => exact ih visits.2

theorem Visits.first {good : σ → Prop} {start : σ} {trace : List ℓ}
    (visits : Visits step good start trace) : good start := by
  cases trace with
  | nil => exact visits
  | cons label rest => exact visits.1

theorem Visits.mono {weak strong : σ → Prop} {start : σ} {trace : List ℓ} (imp : ∀ state, strong state → weak state)
    (visits : Visits step strong start trace) : Visits step weak start trace := by
  induction trace generalizing start with
  | nil => exact imp _ visits
  | cons label rest ih => exact ⟨imp _ visits.1, ih visits.2⟩

/-- The induction rule: what every guarded step preserves holds in every state
of a run whose steps are all guarded. -/
theorem visits_of_along {good : σ → Prop} {guard : σ → ℓ → Prop}
    (preserved : ∀ state label, good state → guard state label → good (step state label))
    {start : σ} {trace : List ℓ} (holds : good start) (along : Along step guard start trace) :
    Visits step good start trace := by
  induction trace generalizing start with
  | nil => exact holds
  | cons label rest ih => exact ⟨holds, ih (preserved _ _ holds along.1) along.2⟩

/-- The same for what every step preserves. -/
theorem visits_of_step {good : σ → Prop} (preserved : ∀ state label, good state → good (step state label))
    {start : σ} (holds : good start) (trace : List ℓ) : Visits step good start trace := by
  have along : Along step (fun _ _ => True) start trace := along_of_all (fun _ _ => trivial) start trace
  exact visits_of_along (fun state label held _ => preserved state label held) holds along

/-- The exactness rule: where a guard is also necessary for a step to preserve
`good`, a run stays inside `good` exactly when all its steps are guarded.
`frame` collects facts every step keeps unconditionally, and `allowed` the
labels the run may use. -/
theorem visits_iff_along {good frame : σ → Prop} {allowed : ℓ → Prop} {guard : σ → ℓ → Prop}
    (framed : ∀ state label, allowed label → frame state → frame (step state label))
    (exact_step : ∀ state label, allowed label → frame state → good state →
      (good (step state label) ↔ guard state label))
    {start : σ} {trace : List ℓ} (labels : ∀ label ∈ trace, allowed label)
    (base : frame start) (holds : good start) :
    Visits step good start trace ↔ Along step guard start trace := by
  induction trace generalizing start with
  | nil => exact ⟨fun _ => trivial, fun _ => holds⟩
  | cons label rest ih =>
      have here := exact_step start label (labels label (by simp)) base holds
      have later (held : good (step start label)) :
          Visits step good (step start label) rest ↔ Along step guard (step start label) rest :=
        ih (fun other member => labels other (by simp [member]))
          (framed start label (labels label (by simp)) base) held
      constructor
      · intro given
        obtain ⟨_, visits⟩ := given
        exact ⟨here.mp visits.first, (later visits.first).mp visits⟩
      · intro given
        obtain ⟨guarded, along⟩ := given
        exact ⟨holds, (later (here.mpr guarded)).mpr along⟩

/-- Labels that a run uses up: a label is refused once it was taken, a refused one
stays refused, and in what `view` shows it changes nothing. -/
structure UsedUp {β : Type*} (step : σ → ℓ → σ) (view : σ → β) (refused : β → ℓ → Prop) : Prop where
  taken : ∀ state label, refused (view (step state label)) label
  kept : ∀ state label other, refused (view state) label → refused (view (step state other)) label
  idle : ∀ state label, refused (view state) label → view (step state label) = view state

namespace UsedUp

variable {β : Type*} {view : σ → β} {refused : β → ℓ → Prop} (usedUp : UsedUp step view refused)
  (start : σ) (trace : List ℓ)

include usedUp

theorem run_kept {label : ℓ} (before : refused (view start) label) :
    refused (view (run step start trace)) label := by
  induction trace generalizing start with
  | nil => exact before
  | cons other rest ih => exact ih (step start other) (usedUp.kept start label other before)

theorem run_refused :
    ∀ label ∈ trace, refused (view (run step start trace)) label := by
  induction trace generalizing start with
  | nil => simp
  | cons first rest ih =>
      intro label member
      rcases List.mem_cons.mp member with rfl | later
      · rw [run_cons]
        exact usedUp.run_kept _ rest (usedUp.taken start label)
      · exact ih (step start first) label later

theorem run_idle (all : ∀ label ∈ trace, refused (view start) label) :
    view (run step start trace) = view start := by
  induction trace generalizing start with
  | nil => rfl
  | cons first rest ih =>
      have same := usedUp.idle start first (all first (by simp))
      have later : ∀ label ∈ rest, refused (view (step start first)) label := by
        intro label member
        rw [same]
        exact all label (by simp [member])
      rw [run_cons, ih (step start first) later, same]

end UsedUp

section Interference

/-! Who learns of whose steps: a machine whose labels are requests with answers, and an
observer who sees the answers to some of them. -/

variable {β : Type*} {answer : σ → ℓ → Option β} {seen : ℓ → Bool}

/-- The answers that the observer sees along a run. -/
def answersSeen (step : σ → ℓ → σ) (answer : σ → ℓ → Option β) (seen : ℓ → Bool) : σ → List ℓ → List β
  | _, [] => []
  | state, label :: rest =>
      (if seen label then (answer state label).toList else []) ++ answersSeen step answer seen (step state label) rest

/-- The unwinding conditions between a machine and the same machine without the labels
that the observer does not see. -/
structure Unwinding (step : σ → ℓ → σ) (answer : σ → ℓ → Option β) (seen : ℓ → Bool) (allowed : σ → ℓ → Prop)
    (alike : σ → σ → Prop) : Prop where
  agrees : ∀ left right label, alike left right → allowed left label → seen label = true →
    answer left label = answer right label
  steps : ∀ left right label, alike left right → allowed left label → seen label = true →
    alike (step left label) (step right label)
  ignores : ∀ left right label, alike left right → allowed left label → seen label = false →
    alike (step left label) right

/-- What the observer sees does not tell whether the other labels were taken. -/
theorem Unwinding.answers_eq {allowed : σ → ℓ → Prop} {alike : σ → σ → Prop}
    (unwinding : Unwinding step answer seen allowed alike) {left right : σ} (same : alike left right) {trace : List ℓ}
    (along : Along step allowed left trace) :
    answersSeen step answer seen left trace = answersSeen step answer seen right (trace.filter seen) := by
  induction trace generalizing left right with
  | nil => rfl
  | cons label rest ih =>
      obtain ⟨here, later⟩ := along
      cases sees : seen label with
      | true =>
          rw [List.filter_cons_of_pos sees, answersSeen, answersSeen, if_pos sees, if_pos sees,
            unwinding.agrees left right label same here sees, ih (unwinding.steps left right label same here sees) later]
      | false =>
          have unseen : ¬ seen label = true := by simp [sees]
          rw [List.filter_cons_of_neg unseen, answersSeen, if_neg unseen, List.nil_append,
            ih (unwinding.ignores left right label same here sees) later]

end Interference

end Aicos.Transition
