import Aicos.Transaction.Recorded

namespace Aicos.Transaction.Certified

open Aicos.Transition
open Aicos.Transaction.ReadCommitted (TransactionId)

/-! Interleaved transactions whose constraints are checked by every statement and
once more when they are committed.

A database that keeps other transactions from breaking a constraint that a statement
has passed (by locks on index entries and referenced rows) commits no more than this:
whatever it commits is admitted on the rows committed by then.  Nothing waits here,
and each transaction can be rolled back at any moment. -/

structure Active (D W ε α : Type) where
  program : Program D W ε α
  pending : List W

structure State (D W ε α : Type) where
  committed : D
  active : TransactionId → Option (Active D W ε α)
  log : List (Committed W α)

inductive Action (D W ε α : Type) where
  | begin (id : TransactionId) (program : Program D W ε α)
  | advance (id : TransactionId)
  | commit (id : TransactionId)
  | abort (id : TransactionId)

variable {D W K ε α : Type}

def State.idle (committed : D) : State D W ε α :=
  { committed, active := fun _ => none, log := [] }

def State.enter (state : State D W ε α) (id : TransactionId) (transaction : Option (Active D W ε α)) :
    State D W ε α :=
  { state with active := Function.update state.active id transaction }

variable (store : Store D W K)

def advance (state : State D W ε α) (id : TransactionId) : State D W ε α :=
  match state.active id with
  | none => state
  | some transaction =>
      match transaction.program with
      | .done _ => state
      | .fail _ => state.enter id none
      | .read next =>
          state.enter id (some { transaction with program := next (store.view transaction.pending state.committed) })
      | .write statement next =>
          if store.admits statement (store.view transaction.pending state.committed) then
            state.enter id (some { program := next, pending := transaction.pending ++ [statement] })
          else state.enter id none

def commit (state : State D W ε α) (id : TransactionId) : State D W ε α :=
  match state.active id with
  | some { program := .done value, pending } =>
      if store.admitsAll pending state.committed then
        { state.enter id none with
          committed := store.view pending state.committed
          log := state.log ++ [{ statements := pending, value }] }
      else state.enter id none
  | _ => state

def step (state : State D W ε α) : Action D W ε α → State D W ε α
  | .begin id program =>
      match state.active id with
      | some _ => state
      | none => state.enter id (some { program, pending := [] })
  | .advance id => advance store state id
  | .commit id => commit store state id
  | .abort id => state.enter id none

def Starts (spawned : Program D W ε α → Prop) : Action D W ε α → Prop
  | .begin _ program => spawned program
  | _ => True

section Rule

/-! `sound` is to hold of the rows in every state, `rely` bounds what a committed
transaction does to them, and `good` is what a transaction owes of the rows it is
committed on. -/

variable (sound : D → Prop) (rely : D → D → Prop) (good : D → Committed W α → Prop)

def Outline : Program D W ε α → List W → D → Prop
  | .done value, pending, rows => ∀ now, sound now → rely rows now → store.admitsAll pending now = true →
      good now { statements := pending, value }
  | .fail _, _, _ => True
  | .read next, pending, rows => ∀ now, sound now → rely rows now → Outline (next (store.view pending now)) pending now
  | .write statement next, pending, rows => Outline next (pending ++ [statement]) rows

variable {store sound rely good}

theorem Outline.stable {program : Program D W ε α} {pending : List W} {before after : D}
    (rely_trans : ∀ first second third, rely first second → rely second third → rely first third)
    (outline : Outline store sound rely good program pending before) (moved : rely before after) :
    Outline store sound rely good program pending after := by
  induction program generalizing pending with
  | done value => exact fun now holds later => outline now holds (rely_trans _ _ _ moved later)
  | fail error => trivial
  | read next _ => exact fun now holds later => outline now holds (rely_trans _ _ _ moved later)
  | write statement next ih => exact ih outline

theorem outline_writeAll {statements pending : List W} {value : α} {rows : D}
    (owed : ∀ now, sound now → rely rows now → store.admitsAll (pending ++ statements) now = true →
      good now { statements := pending ++ statements, value }) :
    Outline store sound rely good (Program.writeAll value statements : Program D W ε α) pending rows := by
  induction statements generalizing pending with
  | nil => simpa [Program.writeAll, Outline] using owed
  | cons statement rest ih => exact ih (by simpa using owed)

/-- A body of which only the kinds of its writes are known. -/
theorem outline_of_writes {allowed : W → Prop} {program : Program D W ε α} {pending : List W} {rows : D}
    (owed : ∀ now entry, (∀ statement ∈ entry.statements, allowed statement) → good now entry)
    (writes : program.Writes allowed) (before : ∀ statement ∈ pending, allowed statement) :
    Outline store sound rely good program pending rows := by
  induction program generalizing pending rows with
  | done value => exact fun now _ _ _ => owed now _ before
  | fail error => trivial
  | read next ih => exact fun now _ _ => ih _ (writes _) before
  | write statement next ih =>
      refine ih writes.2 fun other member => ?_
      cases List.mem_append.mp member with
      | inl earlier => exact before other earlier
      | inr last =>
          obtain rfl := List.mem_singleton.mp last
          exact writes.1

theorem outline_query_bind {β : Type} {select : D → β} {rest : β → Program D W ε α} {pending : List W} {rows : D}
    (later : ∀ now, sound now → rely rows now →
      Outline store sound rely good (rest (select (store.view pending now))) pending now) :
    Outline store sound rely good (Program.query select >>= rest) pending rows :=
  later

theorem outline_require_bind {β : Type} {select : D → Except ε β} {rest : β → Program D W ε α} {pending : List W}
    {rows : D}
    (later : ∀ now value, sound now → rely rows now → select (store.view pending now) = .ok value →
      Outline store sound rely good (rest value) pending now) :
    Outline store sound rely good (Program.require select >>= rest) pending rows := by
  rw [Program.require_bind]
  intro now holds moved
  dsimp only
  cases selected : select (store.view pending now) with
  | ok value => exact later now value holds moved selected
  | error error => trivial

variable (store) in
/-- A step leaves the committed rows and the log alone, or commits one transaction. -/
theorem step_cases (state : State D W ε α) (action : Action D W ε α) :
    ((step store state action).committed = state.committed ∧ (step store state action).log = state.log) ∨
      ∃ id value pending, action = .commit id ∧ state.active id = some { program := .done value, pending } ∧
        store.admitsAll pending state.committed = true ∧
        step store state action = { state.enter id none with
          committed := store.view pending state.committed
          log := state.log ++ [{ statements := pending, value }] } := by
  cases action with
  | begin id program =>
      left
      simp only [step]
      split <;> exact ⟨rfl, rfl⟩
  | advance id =>
      left
      simp only [step, advance]
      split
      · exact ⟨rfl, rfl⟩
      · split
        · exact ⟨rfl, rfl⟩
        · exact ⟨rfl, rfl⟩
        · exact ⟨rfl, rfl⟩
        · split <;> exact ⟨rfl, rfl⟩
  | commit id =>
      simp only [step, commit]
      split
      · rename_i value pending running
        split
        · rename_i admitted
          exact .inr ⟨id, value, pending, rfl, running, admitted, rfl⟩
        · exact .inl ⟨rfl, rfl⟩
      · exact .inl ⟨rfl, rfl⟩
  | abort id => exact .inl ⟨rfl, rfl⟩

/-- Every running transaction has an outline. -/
def Outlined (store : Store D W K) (sound : D → Prop) (rely : D → D → Prop) (good : D → Committed W α → Prop)
    (state : State D W ε α) : Prop :=
  ∀ id transaction, state.active id = some transaction →
    Outline store sound rely good transaction.program transaction.pending state.committed

theorem Outlined.enter {state : State D W ε α} {id : TransactionId} {transaction : Option (Active D W ε α)}
    (outlined : Outlined store sound rely good state)
    (entered : ∀ running, transaction = some running →
      Outline store sound rely good running.program running.pending state.committed) :
    Outlined store sound rely good (state.enter id transaction) := by
  intro other running there
  by_cases same : other = id
  · subst same
    exact entered running (by simpa [State.enter] using there)
  · exact outlined other running (by simpa [State.enter, same] using there)

theorem Outlined.step {state : State D W ε α} {action : Action D W ε α} {spawned : Program D W ε α → Prop}
    (rely_refl : ∀ rows, rely rows rows)
    (rely_trans : ∀ first second third, rely first second → rely second third → rely first third)
    (bodies : ∀ program, spawned program → ∀ rows, sound rows → Outline store sound rely good program [] rows)
    (holds : sound state.committed) (outlined : Outlined store sound rely good state)
    (moved : rely state.committed (step store state action).committed) (starts : Starts spawned action) :
    Outlined store sound rely good (step store state action) := by
  have dropped (id : TransactionId) : Outlined store sound rely good (state.enter id none) :=
    outlined.enter (by simp)
  cases action with
  | begin id program =>
      simp only [Certified.step]
      split
      · exact outlined
      · refine outlined.enter fun running same => ?_
        cases same
        exact bodies program starts _ holds
  | advance id =>
      simp only [Certified.step, Certified.advance]
      split
      · exact outlined
      · rename_i transaction running
        have outline := outlined id transaction running
        split
        · exact outlined
        · exact dropped id
        · rename_i next body
          rw [body] at outline
          refine outlined.enter fun entered same => ?_
          cases same
          exact outline state.committed holds (rely_refl _)
        · rename_i statement next body
          rw [body] at outline
          split
          · refine outlined.enter fun entered same => ?_
            cases same
            exact outline
          · exact dropped id
  | commit id =>
      simp only [Certified.step, Certified.commit]
      split
      · split
        · rename_i value pending running admitted
          simp only [Certified.step, Certified.commit, running, if_pos admitted] at moved
          exact fun other transaction there => ((dropped id) other transaction there).stable rely_trans moved
        · exact dropped id
      · exact outlined
  | abort id => exact dropped id

/-- If every body that may be started has an outline, and what a good transaction
commits keeps the invariant and is what the others rely on, then in every state of
every schedule the invariant holds, and the rows are those of the start with the
logged transactions replayed on them. -/
theorem invariant_of_outlines {spawned : Program D W ε α → Prop} {invariant : D → List (Committed W α) → Prop}
    (rely_refl : ∀ rows, rely rows rows)
    (rely_trans : ∀ first second third, rely first second → rely second third → rely first third)
    (holds : ∀ rows log, invariant rows log → sound rows)
    (commits : ∀ rows log entry, invariant rows log → store.admitsAll entry.statements rows = true → good rows entry →
      invariant (store.view entry.statements rows) (log ++ [entry]) ∧ rely rows (store.view entry.statements rows))
    (bodies : ∀ program, spawned program → ∀ rows, sound rows → Outline store sound rely good program [] rows)
    {start : D} (base : invariant start []) {schedule : List (Action D W ε α)}
    (starts : ∀ action ∈ schedule, Starts spawned action) :
    Visits (step store) (fun state => state.committed = store.replay start state.log ∧
      invariant state.committed state.log) (State.idle start) schedule := by
  have preserved : ∀ (state : State D W ε α) action,
      ((state.committed = store.replay start state.log ∧ invariant state.committed state.log) ∧
        Outlined store sound rely good state) → Starts spawned action →
      (((step store state action).committed = store.replay start (step store state action).log ∧
        invariant (step store state action).committed (step store state action).log) ∧
        Outlined store sound rely good (step store state action)) := by
    intro state action given allowed
    obtain ⟨⟨replayed, here⟩, outlined⟩ := given
    have sound := holds _ _ here
    rcases step_cases store state action with ⟨committed, log⟩ | ⟨id, value, pending, rfl, running, admitted, after⟩
    · have moved : rely state.committed (step store state action).committed := committed ▸ rely_refl _
      refine ⟨?_, outlined.step rely_refl rely_trans bodies sound moved allowed⟩
      rw [committed, log]
      exact ⟨replayed, here⟩
    · have outline := outlined id _ running
      have owed := outline state.committed sound (rely_refl _) admitted
      obtain ⟨kept, moved⟩ := commits _ _ _ here admitted owed
      have moved : rely state.committed (step store state (.commit id)).committed := by rw [after]; exact moved
      refine ⟨?_, outlined.step rely_refl rely_trans bodies sound moved allowed⟩
      rw [after]
      refine ⟨?_, kept⟩
      rw [store.replay_concat, replayed]
  have initial : ((State.idle start : State D W ε α).committed = store.replay start (State.idle start : State D W ε α).log ∧
      invariant start []) ∧ Outlined store sound rely good (State.idle start : State D W ε α) :=
    ⟨⟨rfl, base⟩, by simp [Outlined, State.idle]⟩
  have visits := visits_of_along preserved initial (along_of_forall starts)
  exact visits.mono fun _ all => all.1

end Rule

end Aicos.Transaction.Certified
