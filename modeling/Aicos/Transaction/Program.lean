import Mathlib.Data.List.Basic

namespace Aicos.Transaction

/-! Database transactions as programs over statements.

A program is the body of one interactive transaction: reads hand the rows they
see to the rest of the body, writes are single statements.  The same program is
run alone by `Program.alone` and statement by statement, next to others, by the
scheduler of `Aicos.Transaction.ReadCommitted`.
-/

inductive Program (D W ε α : Type) where
  | done (value : α)
  | fail (error : ε)
  | read (next : D → Program D W ε α)
  | write (statement : W) (next : Program D W ε α)

namespace Program

variable {D W ε α β : Type}

def bind : Program D W ε α → (α → Program D W ε β) → Program D W ε β
  | .done value, rest => rest value
  | .fail error, _ => .fail error
  | .read next, rest => .read fun rows => (next rows).bind rest
  | .write statement next, rest => .write statement (next.bind rest)

instance : Monad (Program D W ε) where
  pure := .done
  bind := bind

def query (select : D → α) : Program D W ε α :=
  .read fun rows => .done (select rows)

def exec (statement : W) : Program D W ε Unit :=
  .write statement (.done ())

def throw (error : ε) : Program D W ε α :=
  .fail error

/-- A read that throws on some rows. -/
def require (select : D → Except ε α) : Program D W ε α :=
  .read fun rows =>
    match select rows with
    | .ok value => .done value
    | .error error => .fail error

@[simp] theorem pure_eq (value : α) : (pure value : Program D W ε α) = .done value := rfl

@[simp] theorem done_bind (value : α) (rest : α → Program D W ε β) :
    (Program.done value >>= rest) = rest value := rfl

@[simp] theorem throw_bind (error : ε) (rest : α → Program D W ε β) :
    (throw error >>= rest) = .fail error := rfl

@[simp] theorem query_bind (select : D → α) (rest : α → Program D W ε β) :
    (query select >>= rest) = .read fun rows => rest (select rows) := rfl

@[simp] theorem exec_bind (statement : W) (rest : Unit → Program D W ε β) :
    (exec statement >>= rest) = .write statement (rest ()) := rfl

@[simp] theorem read_bind (next : D → Program D W ε α) (rest : α → Program D W ε β) :
    (Program.read next >>= rest) = .read fun rows => next rows >>= rest := rfl

@[simp] theorem write_bind (statement : W) (next : Program D W ε α) (rest : α → Program D W ε β) :
    (Program.write statement next >>= rest) = .write statement (next >>= rest) := rfl

@[simp] theorem require_bind (select : D → Except ε α) (rest : α → Program D W ε β) :
    (require select >>= rest) = .read fun rows =>
      match select rows with
      | .ok value => rest value
      | .error error => .fail error := by
  rw [require, read_bind]
  congr 1
  funext rows
  cases select rows <;> rfl

theorem bind_assoc {γ : Type} (program : Program D W ε α) (first : α → Program D W ε β)
    (second : β → Program D W ε γ) :
    (program >>= first) >>= second = program >>= fun value => first value >>= second := by
  induction program with
  | done value => rfl
  | fail error => rfl
  | read next ih => exact congrArg Program.read (funext ih)
  | write statement next ih => exact congrArg (Program.write statement) ih

/-- Forget the result of a transaction body: what other transactions can see
of it are its statements alone. -/
def discard (program : Program D W ε α) : Program D W ε Unit :=
  program >>= fun _ => .done ()

/-- The same body over a larger set of rows, of which its reads see a part. -/
def within {D' : Type} (part : D' → D) : Program D W ε α → Program D' W ε α
  | .done value => .done value
  | .fail error => .fail error
  | .read next => .read fun rows => (next (part rows)).within part
  | .write statement next => .write statement (next.within part)

end Program

/-- How statements act on the rows: their effect, the constraint check that can
reject them, and the row and index locks they take until the transaction ends. -/
structure Store (D W K : Type) where
  apply : W → D → D
  admits : W → D → Bool
  locks : W → List K

namespace Store

variable {D W K : Type} (store : Store D W K)

/-- What a transaction sees: the committed rows under its own writes. -/
def view (pending : List W) (committed : D) : D :=
  pending.foldl (fun rows statement => store.apply statement rows) committed

@[simp] theorem view_nil (committed : D) : store.view [] committed = committed := rfl

@[simp] theorem view_cons (statement : W) (pending : List W) (committed : D) :
    store.view (statement :: pending) committed = store.view pending (store.apply statement committed) :=
  rfl

@[simp] theorem view_concat (pending : List W) (statement : W) (committed : D) :
    store.view (pending ++ [statement]) committed =
      store.apply statement (store.view pending committed) := by
  simp [view]

theorem view_append (first second : List W) (committed : D) :
    store.view (first ++ second) committed = store.view second (store.view first committed) :=
  List.foldl_append

/-- Every statement is admitted on the rows the ones before it leave. -/
def admitsAll : List W → D → Bool
  | [], _ => true
  | statement :: rest, rows => store.admits statement rows && admitsAll rest (store.apply statement rows)

theorem admitsAll_append (first second : List W) (rows : D) :
    store.admitsAll (first ++ second) rows =
      (store.admitsAll first rows && store.admitsAll second (store.view first rows)) := by
  induction first generalizing rows with
  | nil => rfl
  | cons statement rest ih => rw [List.cons_append, admitsAll, admitsAll, ih, view_cons, Bool.and_assoc]

/-- What every admitted statement preserves, a list of them preserves. -/
theorem view_preserves {good : D → Prop} {statements : List W}
    (preserved : ∀ statement ∈ statements, ∀ rows, store.admits statement rows = true → good rows →
      good (store.apply statement rows))
    {rows : D} (admitted : store.admitsAll statements rows = true) (holds : good rows) :
    good (store.view statements rows) := by
  induction statements generalizing rows with
  | nil => exact holds
  | cons statement rest ih =>
      obtain ⟨here, later⟩ := Bool.and_eq_true_iff.mp admitted
      have first := preserved statement (List.mem_cons_self ..) rows here holds
      exact ih (fun other member => preserved other (List.mem_cons_of_mem _ member)) later first

def Holds (pending : List W) (key : K) : Prop :=
  ∃ statement ∈ pending, key ∈ store.locks statement

theorem holds_cons {pending : List W} {statement : W} {key : K} :
    store.Holds (statement :: pending) key ↔
      key ∈ store.locks statement ∨ store.Holds pending key := by
  simp only [Holds, List.mem_cons, or_and_right, exists_or, exists_eq_left]

theorem holds_concat {pending : List W} {statement : W} {key : K} :
    store.Holds (pending ++ [statement]) key ↔
      store.Holds pending key ∨ key ∈ store.locks statement := by
  simp only [Holds, List.mem_append, List.mem_singleton, or_and_right, exists_or, exists_eq_left]

end Store

/-- Why a transaction rolled back: its body threw, or a statement violated a
constraint. -/
inductive Abort (W ε : Type) where
  | thrown (error : ε)
  | rejected (statement : W)
deriving DecidableEq

namespace Program

variable {D W K ε α β : Type} (store : Store D W K)

/-- The transaction run with no other transaction between its statements. -/
def alone : Program D W ε α → D → Except (Abort W ε) (α × D)
  | .done value, rows => .ok (value, rows)
  | .fail error, _ => .error (.thrown error)
  | .read next, rows => (next rows).alone rows
  | .write statement next, rows =>
      if store.admits statement rows then next.alone (store.apply statement rows)
      else .error (.rejected statement)

theorem alone_bind (program : Program D W ε α) (rest : α → Program D W ε β) (rows : D) :
    (program >>= rest).alone store rows =
      match program.alone store rows with
      | .ok (value, after) => (rest value).alone store after
      | .error abort => .error abort := by
  induction program generalizing rows with
  | done value => rfl
  | fail error => rfl
  | read next ih => exact ih rows rows
  | write statement next ih =>
      simp only [write_bind, alone]
      split
      · exact ih _
      · rfl

/-- If an admitted statement does to the part what it does there alone, so does the transaction. -/
theorem alone_within {D' : Type} {part : D' → D} {whole : Store D' W K}
    (simulates : ∀ statement rows, whole.admits statement rows = true →
      store.admits statement (part rows) = true ∧
        part (whole.apply statement rows) = store.apply statement (part rows))
    {program : Program D W ε α} {rows after : D'} {value : α}
    (ran : (program.within part).alone whole rows = .ok (value, after)) :
    program.alone store (part rows) = .ok (value, part after) := by
  induction program generalizing rows with
  | done result => cases ran; rfl
  | fail error => cases ran
  | read next ih => exact ih (part rows) ran
  | write statement next ih =>
      simp only [within, alone] at ran ⊢
      split at ran
      · rename_i admitted
        obtain ⟨here, moved⟩ := simulates statement rows admitted
        rw [if_pos here, ← moved]
        exact ih ran
      · cases ran

def writeAll (value : α) : List W → Program D W ε α
  | [] => .done value
  | statement :: rest => .write statement (writeAll value rest)

theorem within_writeAll {D' : Type} (part : D' → D) (value : α) (statements : List W) :
    (writeAll value statements : Program D W ε α).within part = writeAll value statements := by
  induction statements with
  | nil => rfl
  | cons statement rest ih => exact congrArg (Program.write statement) ih

/-- A transaction of writes alone returns where they are admitted one after another. -/
theorem alone_writeAll_iff {statements : List W} {value result : α} {rows after : D} :
    (writeAll value statements : Program D W ε α).alone store rows = .ok (result, after) ↔
      store.admitsAll statements rows = true ∧ result = value ∧ after = store.view statements rows := by
  induction statements generalizing rows with
  | nil => simp [writeAll, alone, Store.admitsAll, eq_comm]
  | cons statement rest ih =>
      rw [writeAll, alone, Store.admitsAll, Bool.and_eq_true]
      by_cases admitted : store.admits statement rows = true
      · rw [if_pos admitted, ih]
        simp [admitted]
      · simp [admitted]

/-- Every write the program can come to is allowed. -/
def Writes (allowed : W → Prop) : Program D W ε α → Prop
  | .done _ => True
  | .fail _ => True
  | .read next => ∀ rows, (next rows).Writes allowed
  | .write statement next => allowed statement ∧ next.Writes allowed

@[simp] theorem writes_pure {allowed : W → Prop} (value : α) :
    (pure value : Program D W ε α).Writes allowed := trivial

@[simp] theorem writes_throw {allowed : W → Prop} (error : ε) :
    (throw error : Program D W ε α).Writes allowed := trivial

@[simp] theorem writes_query_bind {allowed : W → Prop} {select : D → α} {rest : α → Program D W ε β} :
    (query select >>= rest).Writes allowed ↔ ∀ rows, (rest (select rows)).Writes allowed := Iff.rfl

@[simp] theorem writes_exec_bind {allowed : W → Prop} {statement : W} {rest : Unit → Program D W ε β} :
    (exec statement >>= rest).Writes allowed ↔ allowed statement ∧ (rest ()).Writes allowed := Iff.rfl

theorem writes_any (program : Program D W ε α) : program.Writes fun _ => True := by
  induction program with
  | done value => trivial
  | fail error => trivial
  | read next ih => exact ih
  | write statement next ih => exact ⟨trivial, ih⟩

theorem Writes.bind {allowed : W → Prop} {program : Program D W ε α} {rest : α → Program D W ε β}
    (first : program.Writes allowed) (later : ∀ value, (rest value).Writes allowed) :
    (program >>= rest).Writes allowed := by
  induction program with
  | done value => exact later value
  | fail error => trivial
  | read next ih => exact fun rows => ih rows (first rows)
  | write statement next ih => exact ⟨first.1, ih first.2⟩

theorem Writes.within {D' : Type} {part : D' → D} {allowed : W → Prop} {program : Program D W ε α}
    (writes : program.Writes allowed) : (program.within part).Writes allowed := by
  induction program with
  | done value => trivial
  | fail error => trivial
  | read next ih => exact fun rows => ih (part rows) (writes (part rows))
  | write statement next ih => exact ⟨writes.1, ih writes.2⟩

/-- What every allowed write preserves, a transaction run alone preserves. -/
theorem Writes.alone {allowed : W → Prop} {good : D → Prop}
    (preserved : ∀ statement rows, allowed statement → store.admits statement rows = true → good rows →
      good (store.apply statement rows))
    {program : Program D W ε α} (writes : program.Writes allowed) {rows after : D} {value : α}
    (holds : good rows) (ran : program.alone store rows = .ok (value, after)) : good after := by
  induction program generalizing rows with
  | done result => cases ran; exact holds
  | fail error => cases ran
  | read next ih => exact ih rows (writes rows) holds ran
  | write statement next ih =>
      simp only [Program.alone] at ran
      split at ran
      · rename_i admitted
        exact ih writes.2 (preserved statement rows writes.1 admitted holds) ran
      · cases ran

end Program

end Aicos.Transaction
