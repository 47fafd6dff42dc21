import Aicos.Transaction.ReadCommitted

namespace Aicos.Transaction

open Aicos.Transition Aicos.Transaction.ReadCommitted

/-! Transactions that leave a record.  The log holds, in the order of the commits,
what each committed transaction wrote and what it returned; the rows are those of
the start with the log replayed on them. -/

structure Committed (W α : Type) where
  statements : List W
  value : α
deriving DecidableEq

variable {D W K ε α : Type}

/-- The transaction, entering itself in the log as its last statement. -/
def Program.record (statements : List W) :
    Program D W ε α → Program (D × List (Committed W α)) (W ⊕ Committed W α) ε Unit
  | .done value => .write (.inr { statements, value }) (.done ())
  | .fail error => .fail error
  | .read next => .read fun rows => (next rows.1).record statements
  | .write statement next => .write (.inl statement) (next.record (statements ++ [statement]))

namespace Store

def recorded (store : Store D W K) : Store (D × List (Committed W α)) (W ⊕ Committed W α) K where
  apply := fun
    | .inl statement, rows => (store.apply statement rows.1, rows.2)
    | .inr entry, rows => (rows.1, rows.2 ++ [entry])
  admits := fun
    | .inl statement, rows => store.admits statement rows.1
    | .inr _, _ => true
  locks := fun
    | .inl statement => store.locks statement
    | .inr _ => []

variable (store : Store D W K)

def replay (start : D) (log : List (Committed W α)) : D :=
  log.foldl (fun rows entry => store.view entry.statements rows) start

@[simp] theorem replay_nil (start : D) : store.replay start ([] : List (Committed W α)) = start := rfl

@[simp] theorem replay_cons (start : D) (entry : Committed W α) (log : List (Committed W α)) :
    store.replay start (entry :: log) = store.replay (store.view entry.statements start) log := rfl

theorem replay_concat (start : D) (log : List (Committed W α)) (entry : Committed W α) :
    store.replay start (log ++ [entry]) = store.view entry.statements (store.replay start log) := by
  simp [replay]

theorem recorded_view (statements : List W) (rows : D × List (Committed W α)) :
    store.recorded.view (statements.map .inl) rows = (store.view statements rows.1, rows.2) := by
  induction statements generalizing rows with
  | nil => rfl
  | cons statement rest ih => exact ih (store.apply statement rows.1, rows.2)

theorem recorded_holds (statements : List W) :
    (store.recorded (α := α)).Holds (statements.map .inl) = store.Holds statements := by
  funext key
  simp [Holds, recorded]

theorem recorded_holds_entry (statements : List W) (entry : Committed W α) :
    (store.recorded (α := α)).Holds (statements.map .inl ++ [.inr entry]) = store.Holds statements := by
  funext key
  rw [holds_concat, recorded_holds]
  simp [recorded]

end Store

section Rule

/-! The rule of `ReadCommitted` for recorded transactions: `good rows entry` is
what a transaction owes of the rows it is committed on. -/

variable (store : Store D W K)
variable (invariant : D → Prop) (rely : (K → Prop) → D → D → Prop)
variable (guard : D → D → W → Prop) (good : D → Committed W α → Prop)

def RecordedOutline : Program D W ε α → List W → D → D → Prop
  | .done value, statements, _, rows => ∀ now, invariant now → rely (store.Holds statements) rows now →
      good now { statements, value }
  | .fail _, _, _, _ => True
  | .read next, statements, _, rows => ∀ now, invariant now → rely (store.Holds statements) rows now →
      RecordedOutline (next (store.view statements now)) statements (store.view statements now) now
  | .write statement next, statements, seen, rows => ∀ now, invariant now →
      rely (store.Holds statements) rows now →
      store.admits statement (store.view statements now) = true →
      guard seen (store.view statements now) statement →
      RecordedOutline next (statements ++ [statement]) seen now

/-- Every committed transaction was good for the rows it was committed on. -/
def Replayed (start : D) (state : D × List (Committed W α)) : Prop :=
  state.1 = store.replay start state.2 ∧
    ∀ before entry after, state.2 = before ++ entry :: after → good (store.replay start before) entry

def recordedGuard : D × List (Committed W α) → D × List (Committed W α) → W ⊕ Committed W α → Prop
  | seen, rows, .inl statement => guard seen.1 rows.1 statement
  | _, _, .inr _ => True

/-- A finished body has entered itself in the log. -/
def Entered (pending : List (W ⊕ Committed W α)) (rows : D × List (Committed W α)) : Prop :=
  ∃ entry : Committed W α, pending = entry.statements.map .inl ++ [.inr entry] ∧ good rows.1 entry

variable {store invariant rely guard good}

theorem RecordedOutline.require_bind {β : Type} {select : D → Except ε β} {rest : β → Program D W ε α}
    {statements : List W} {seen rows : D}
    (later : ∀ now value, invariant now → rely (store.Holds statements) rows now →
      select (store.view statements now) = .ok value →
      RecordedOutline store invariant rely guard good (rest value) statements (store.view statements now) now) :
    RecordedOutline store invariant rely guard good (Program.require select >>= rest) statements seen rows := by
  rw [Program.require_bind]
  intro now sound moved
  dsimp only
  cases selected : select (store.view statements now) with
  | ok value => exact later now value sound moved selected
  | error error => trivial

theorem Replayed.concat {start : D} {rows : D} {log : List (Committed W α)} {entry : Committed W α}
    (replayed : Replayed store good start (rows, log)) (owed : good rows entry) :
    Replayed store good start (store.view entry.statements rows, log ++ [entry]) := by
  obtain ⟨same, all⟩ := replayed
  dsimp only at same all
  refine ⟨by rw [store.replay_concat, same], ?_⟩
  intro before other after split
  rcases List.eq_nil_or_concat after with rfl | ⟨rest, last, rfl⟩
  · obtain ⟨rfl, one⟩ := List.append_inj' split rfl
    cases one
    exact same ▸ owed
  · rw [List.concat_eq_append, ← List.cons_append, ← List.append_assoc] at split
    exact all before other rest (List.append_inj' split rfl).1

theorem RecordedOutline.record {program : Program D W ε α} {statements : List W} {seen rows : D} {start : D}
    (rely_trans : ∀ held first second third, rely held first second → rely held second third →
      rely held first third)
    (outline : RecordedOutline store invariant rely guard good program statements seen rows)
    (log later : List (Committed W α)) :
    Outline store.recorded (fun state => invariant state.1 ∧ Replayed store good start state)
      (fun held before after => rely held before.1 after.1) (recordedGuard guard) (Entered good)
      (program.record statements) (statements.map .inl) (seen, log) (rows, later) := by
  induction program generalizing statements seen rows log later with
  | done value =>
      intro now sound moved _ _ last sound' moved'
      rw [store.recorded_holds] at moved
      rw [store.recorded_holds_entry] at moved'
      exact ⟨⟨statements, value⟩, rfl, outline last.1 sound'.1 (rely_trans _ _ _ _ moved moved')⟩
  | fail error => trivial
  | read next ih =>
      intro now sound moved
      rw [store.recorded_holds] at moved
      rw [store.recorded_view]
      exact ih _ (outline now.1 sound.1 moved) _ _
  | write statement next ih =>
      intro now sound moved admitted guarded
      rw [store.recorded_holds] at moved
      rw [store.recorded_view] at admitted guarded
      have rest := ih (outline now.1 sound.1 moved admitted guarded) log now.2
      rwa [List.map_append] at rest

/-- Rely-guarantee for recorded transactions: in every state of a guarded schedule,
every committed transaction was good for the rows it was committed on. -/
theorem replayed_of_outlines [DecidableEq K] {spawned : Program D W ε α → Prop}
    (rely_refl : ∀ held rows, rely held rows rows)
    (rely_trans : ∀ held first second third, rely held first second → rely held second third →
      rely held first third)
    (frame : ∀ statements rows held, (∀ key, held key → ¬ store.Holds statements key) →
      rely held rows (store.view statements rows))
    (kept : ∀ rows entry, invariant rows → good rows entry → invariant (store.view entry.statements rows))
    (outlined : ∀ program, spawned program → ∀ rows, invariant rows →
      RecordedOutline store invariant rely guard good program [] rows rows)
    {start : D} (base : invariant start)
    {schedule : List (Action (D × List (Committed W α)) (W ⊕ Committed W α) ε)}
    (starts : ∀ action ∈ schedule,
      Starts (fun program => ∃ body, spawned body ∧ program = body.record []) action)
    (guarded : Along (step store.recorded) (WriteGuard store.recorded (recordedGuard guard))
      (State.idle (start, [])) schedule) :
    Visits (step store.recorded) (fun state => invariant state.committed.1 ∧
      Replayed store good start state.committed) (State.idle (start, [])) schedule := by
  have discharge : ∀ (pending : List (W ⊕ Committed W α)) (rows : D × List (Committed W α)),
      (invariant rows.1 ∧ Replayed store good start rows) → Entered good pending rows →
      (invariant (store.recorded.view pending rows).1 ∧
          Replayed store good start (store.recorded.view pending rows)) ∧
        ∀ held, (∀ key, held key → ¬ store.recorded.Holds pending key) →
          rely held rows.1 (store.recorded.view pending rows).1 := by
    rintro pending ⟨rows, log⟩ ⟨sound, replayed⟩ ⟨entry, rfl, owed⟩
    have view : store.recorded.view (entry.statements.map .inl ++ [.inr entry]) (rows, log) =
        (store.view entry.statements rows, log ++ [entry]) := by
      rw [Store.view_concat, store.recorded_view]
      rfl
    rw [view, store.recorded_holds_entry]
    refine ⟨⟨kept rows entry sound owed, replayed.concat owed⟩, fun held apart => ?_⟩
    exact frame entry.statements rows held apart
  have bodies : ∀ program : Program (D × List (Committed W α)) (W ⊕ Committed W α) ε Unit,
      (∃ body, spawned body ∧ program = body.record []) → ∀ rows,
      (invariant rows.1 ∧ Replayed store good start rows) →
      Outline store.recorded (fun state => invariant state.1 ∧ Replayed store good start state)
        (fun held before after => rely held before.1 after.1) (recordedGuard guard) (Entered good)
        program [] rows rows := by
    rintro program ⟨body, spawns, rfl⟩ ⟨rows, log⟩ ⟨sound, _⟩
    exact (outlined body spawns rows sound).record rely_trans log log
  have nothing : invariant start ∧ Replayed store good start (start, []) :=
    ⟨base, rfl, by simp⟩
  exact invariant_of_outlines (fun held rows => rely_refl held rows.1)
    (fun held first second third => rely_trans held first.1 second.1 third.1) discharge bodies nothing starts guarded

end Rule

end Aicos.Transaction
