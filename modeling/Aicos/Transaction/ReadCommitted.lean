import Aicos.Transition.Run
import Aicos.Transaction.Program
import Mathlib.Logic.Function.Basic

namespace Aicos.Transaction.ReadCommitted

open Aicos.Transition

/-! Interleaved transactions under READ COMMITTED.

Every statement reads the rows committed at that moment under the transaction's
own writes.  A write locks its rows until the transaction ends and waits while
another transaction holds one of them.  Commit installs all writes at once;
abort, which can happen anywhere, drops them.
-/

abbrev TransactionId := Nat

structure Active (D W ε : Type) where
  program : Program D W ε Unit
  pending : List W
  /-- The rows as the last read statement of the transaction saw them. -/
  seen : D

structure State (D W K ε : Type) where
  committed : D
  active : TransactionId → Option (Active D W ε)
  owner : K → Option TransactionId

inductive Action (D W ε : Type) where
  | begin (id : TransactionId) (program : Program D W ε Unit)
  | advance (id : TransactionId)
  | commit (id : TransactionId)
  | abort (id : TransactionId)

variable {D W K ε : Type}

def State.idle (committed : D) : State D W K ε :=
  { committed, active := fun _ => none, owner := fun _ => none }

def State.finish (state : State D W K ε) (id : TransactionId) : State D W K ε :=
  { state with
    active := Function.update state.active id none
    owner := fun key => if state.owner key = some id then none else state.owner key }

def State.resume (state : State D W K ε) (id : TransactionId) (transaction : Active D W ε) :
    State D W K ε :=
  { state with active := Function.update state.active id (some transaction) }

def State.acquire [DecidableEq K] (state : State D W K ε) (id : TransactionId) (keys : List K) : State D W K ε :=
  { state with owner := fun key => if key ∈ keys then some id else state.owner key }

def State.blocked (state : State D W K ε) (id : TransactionId) (keys : List K) : Bool :=
  keys.any fun key => state.owner key ≠ none ∧ state.owner key ≠ some id

variable (store : Store D W K)

def advance [DecidableEq K] (state : State D W K ε) (id : TransactionId) : State D W K ε :=
  match state.active id with
  | none => state
  | some transaction =>
      match transaction.program with
      | .done _ => state
      | .fail _ => state.finish id
      | .read next =>
          let rows := store.view transaction.pending state.committed
          state.resume id { transaction with program := next rows, seen := rows }
      | .write statement next =>
          -- the statement waits for the transaction that holds the row
          if state.blocked id (store.locks statement) then state
          else if store.admits statement (store.view transaction.pending state.committed) then
            (state.acquire id (store.locks statement)).resume id
              { transaction with program := next, pending := transaction.pending ++ [statement] }
          else state.finish id

def commit (state : State D W K ε) (id : TransactionId) : State D W K ε :=
  match state.active id with
  | some { program := .done _, pending, .. } =>
      { state.finish id with committed := store.view pending state.committed }
  | _ => state

def step [DecidableEq K] (state : State D W K ε) : Action D W ε → State D W K ε
  | .begin id program =>
      match state.active id with
      | some _ => state
      | none => state.resume id { program, pending := [], seen := state.committed }
  | .advance id => advance store state id
  | .commit id => commit store state id
  | .abort id => state.finish id

/-- The condition `guard seen rows statement` holds whenever the next step runs
a write: `seen` is what the transaction last read, `rows` what the write meets. -/
def WriteGuard (guard : D → D → W → Prop) (state : State D W K ε) : Action D W ε → Prop
  | .advance id =>
      match state.active id with
      | some { program := .write statement _, pending, seen } =>
          guard seen (store.view pending state.committed) statement
      | _ => True
  | _ => True

theorem writeGuard_trivial (state : State D W K ε) (action : Action D W ε) :
    WriteGuard store (fun _ _ _ => True) state action := by
  unfold WriteGuard
  split
  · split <;> trivial
  · trivial

variable {store} in
theorem WriteGuard.mono {weak strong : D → D → W → Prop} {state : State D W K ε} {action : Action D W ε}
    (imp : ∀ seen rows statement, strong seen rows statement → weak seen rows statement)
    (guarded : WriteGuard store strong state action) : WriteGuard store weak state action := by
  unfold WriteGuard at guarded ⊢
  split at guarded
  · split at guarded
    · exact imp _ _ _ guarded
    · trivial
  · trivial

def Starts (spawned : Program D W ε Unit → Prop) : Action D W ε → Prop
  | .begin _ program => spawned program
  | _ => True

section Rule

/-! A rely-guarantee rule.  `invariant` is to hold of the committed rows in every
state; `rely held before after` bounds what other transactions may commit while
one transaction holds the locks `held`; `post` is what a finished body owes. -/

variable (invariant : D → Prop) (rely : (K → Prop) → D → D → Prop)
variable (guard : D → D → W → Prop) (post : List W → D → Prop)

/-- A proof outline of a transaction body: before each statement the committed
rows may have moved by `rely`, and at the end `post` holds of the writes. -/
def Outline : Program D W ε Unit → List W → D → D → Prop
  | .done _, pending, _, rows => ∀ now, invariant now → rely (store.Holds pending) rows now →
      post pending now
  | .fail _, _, _, _ => True
  | .read next, pending, _, rows => ∀ now, invariant now → rely (store.Holds pending) rows now →
      Outline (next (store.view pending now)) pending (store.view pending now) now
  | .write statement next, pending, seen, rows => ∀ now, invariant now →
      rely (store.Holds pending) rows now →
      store.admits statement (store.view pending now) = true →
      guard seen (store.view pending now) statement →
      Outline next (pending ++ [statement]) seen now

variable {invariant rely guard post}

theorem Outline.stable {program : Program D W ε Unit} {pending : List W} {seen before after : D}
    (rely_trans : ∀ held first second third, rely held first second → rely held second third →
      rely held first third)
    (outline : Outline store invariant rely guard post program pending seen before)
    (moved : rely (store.Holds pending) before after) :
    Outline store invariant rely guard post program pending seen after := by
  cases program with
  | done value => exact fun now here later => outline now here (rely_trans _ _ _ _ moved later)
  | fail error => trivial
  | read next => exact fun now here later => outline now here (rely_trans _ _ _ _ moved later)
  | write statement next =>
      exact fun now here later => outline now here (rely_trans _ _ _ _ moved later)

structure Sound (invariant : D → Prop) (rely : (K → Prop) → D → D → Prop)
    (guard : D → D → W → Prop) (post : List W → D → Prop) (state : State D W K ε) : Prop where
  committed : invariant state.committed
  outlined : ∀ id transaction, state.active id = some transaction →
    Outline store invariant rely guard post transaction.program transaction.pending
      transaction.seen state.committed
  owned : ∀ id transaction key, state.active id = some transaction →
    store.Holds transaction.pending key → state.owner key = some id

variable {store}

theorem Sound.finish {state : State D W K ε} (sound : Sound store invariant rely guard post state)
    (id : TransactionId) : Sound store invariant rely guard post (state.finish id) := by
  refine ⟨sound.committed, ?_, ?_⟩
  · intro other transaction running
    by_cases same : other = id
    · simp [State.finish, same] at running
    · exact sound.outlined other transaction (by simpa [State.finish, same] using running)
  · intro other transaction key running holds
    by_cases same : other = id
    · simp [State.finish, same] at running
    · have owner := sound.owned other transaction key (by simpa [State.finish, same] using running) holds
      simp [State.finish, owner, same]

theorem Sound.resume {state : State D W K ε} {id : TransactionId} {transaction : Active D W ε}
    (sound : Sound store invariant rely guard post state)
    (outline : Outline store invariant rely guard post transaction.program transaction.pending
      transaction.seen state.committed)
    (owned : ∀ key, store.Holds transaction.pending key → state.owner key = some id) :
    Sound store invariant rely guard post (state.resume id transaction) := by
  refine ⟨sound.committed, ?_, ?_⟩
  · intro other found running
    by_cases same : other = id
    · obtain rfl : transaction = found := by simpa [State.resume, same] using running
      exact outline
    · exact sound.outlined other found (by simpa [State.resume, same] using running)
  · intro other found key running holds
    by_cases same : other = id
    · obtain rfl : transaction = found := by simpa [State.resume, same] using running
      exact same ▸ owned key holds
    · exact sound.owned other found key (by simpa [State.resume, same] using running) holds

theorem Sound.acquire [DecidableEq K] {state : State D W K ε} {id : TransactionId} {keys : List K}
    (sound : Sound store invariant rely guard post state) (free : state.blocked id keys = false) :
    Sound store invariant rely guard post (state.acquire id keys) := by
  refine ⟨sound.committed, sound.outlined, ?_⟩
  intro other transaction key running holds
  have owner := sound.owned other transaction key running holds
  by_cases locked : key ∈ keys
  · have mine := List.any_eq_false.mp free key locked
    have same : other = id := by simpa [owner] using mine
    simp [State.acquire, locked, same]
  · simpa [State.acquire, locked] using owner

theorem Sound.advance [DecidableEq K] {state : State D W K ε}
    (rely_refl : ∀ held rows, rely held rows rows)
    (sound : Sound store invariant rely guard post state) (id : TransactionId)
    (guarded : WriteGuard store guard state (.advance id)) :
    Sound store invariant rely guard post (ReadCommitted.advance store state id) := by
  unfold ReadCommitted.advance
  cases running : state.active id with
  | none => exact sound
  | some transaction =>
      obtain ⟨program, pending, seen⟩ := transaction
      have outline := sound.outlined id _ running
      have owned := fun key => sound.owned id _ key running
      cases program with
      | done value => exact sound
      | fail error => exact sound.finish id
      | read next =>
          exact sound.resume (outline state.committed sound.committed (rely_refl _ _)) owned
      | write statement next =>
          dsimp only
          split
          · exact sound
          · rename_i free
            split
            · rename_i admitted
              have acquired := sound.acquire (by simpa using free)
              have allowed : guard seen (store.view pending state.committed) statement := by
                simpa only [WriteGuard, running] using guarded
              refine acquired.resume
                (outline state.committed sound.committed (rely_refl _ _) admitted allowed) ?_
              intro key holds
              by_cases locked : key ∈ store.locks statement
              · simp [State.acquire, locked]
              · have held := (store.holds_concat.mp holds).resolve_right locked
                simpa [State.acquire, locked] using owned key held
            · exact sound.finish id

theorem Sound.commit {state : State D W K ε}
    (discharge : ∀ pending rows, invariant rows → post pending rows →
      invariant (store.view pending rows) ∧
        ∀ held, (∀ key, held key → ¬ store.Holds pending key) → rely held rows (store.view pending rows))
    (rely_refl : ∀ held rows, rely held rows rows)
    (rely_trans : ∀ held first second third, rely held first second → rely held second third →
      rely held first third)
    (sound : Sound store invariant rely guard post state) (id : TransactionId) :
    Sound store invariant rely guard post (ReadCommitted.commit store state id) := by
  unfold ReadCommitted.commit
  cases running : state.active id with
  | none => exact sound
  | some transaction =>
      obtain ⟨program, pending, seen⟩ := transaction
      cases program with
      | done value =>
          have owed := sound.outlined id _ running state.committed sound.committed (rely_refl _ _)
          obtain ⟨after, guarantee⟩ := discharge pending state.committed sound.committed owed
          have finished := sound.finish id
          refine ⟨after, ?_, finished.owned⟩
          intro other transaction found
          have different : other ≠ id := by
            intro same
            simp [State.finish, same] at found
          have before : state.active other = some transaction := by
            simpa [State.finish, different] using found
          -- the installed writes are locked, so no other transaction holds their rows
          apply (finished.outlined other transaction found).stable store rely_trans
          apply guarantee
          intro key held also
          have mine := sound.owned other transaction key before held
          have yours := sound.owned id _ key running also
          exact different (Option.some.inj (mine.symm.trans yours))
      | fail error => exact sound
      | read next => exact sound
      | write statement next => exact sound

/-- Rely-guarantee: if every body that may be started has an outline, and a
finished body keeps the invariant and the other bodies' rely, then the invariant
holds of the committed rows in every state of every guarded schedule. -/
theorem invariant_of_outlines [DecidableEq K] {spawned : Program D W ε Unit → Prop}
    (rely_refl : ∀ held rows, rely held rows rows)
    (rely_trans : ∀ held first second third, rely held first second → rely held second third →
      rely held first third)
    (discharge : ∀ pending rows, invariant rows → post pending rows →
      invariant (store.view pending rows) ∧
        ∀ held, (∀ key, held key → ¬ store.Holds pending key) → rely held rows (store.view pending rows))
    (outlined : ∀ program, spawned program → ∀ rows, invariant rows →
      Outline store invariant rely guard post program [] rows rows)
    {rows : D} (base : invariant rows) {schedule : List (Action D W ε)}
    (starts : ∀ action ∈ schedule, Starts spawned action)
    (guarded : Along (step store) (WriteGuard store guard) (State.idle rows) schedule) :
    Visits (step store) (fun state => invariant state.committed) (State.idle rows) schedule := by
  have initial : Sound store invariant rely guard post (State.idle rows : State D W K ε) :=
    ⟨base, by simp [State.idle], by simp [State.idle]⟩
  have preserved : ∀ (state : State D W K ε) action,
      Sound store invariant rely guard post state →
      WriteGuard store guard state action ∧ Starts spawned action →
      Sound store invariant rely guard post (step store state action) := by
    intro state action sound here
    cases action with
    | begin id program =>
        simp only [step]
        split
        · exact sound
        · exact sound.resume (outlined program here.2 _ sound.committed) (by simp [Store.Holds])
    | advance id => exact sound.advance rely_refl id here.1
    | commit id => exact sound.commit discharge rely_refl rely_trans id
    | abort id => exact sound.finish id
  have visits := visits_of_along preserved initial (guarded.and (along_of_forall starts))
  exact visits.mono fun _ sound => sound.committed

end Rule

end Aicos.Transaction.ReadCommitted
