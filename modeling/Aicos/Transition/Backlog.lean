import Mathlib.Data.List.Basic

namespace Aicos.Transition

/-! Rows in one system that jobs in the queue of another are to process.  A producer
stores a row and then adds its job, and nothing binds the two calls together. -/

/-- How a call to another system ends: `lost` has had its effect, but its answer does not come. -/
inductive Answer where
  | works | fails | lost
deriving DecidableEq

/-- `processed` are the ids of the rows whose job has run. -/
structure Backlog (Row Job : Type*) where
  rows : List Row
  queue : List Job
  processed : List Nat
deriving DecidableEq

variable {Row Job : Type*} (rowId : Row → Nat) (jobId : Job → Nat)

namespace Backlog

/-- The transaction that inserts the row; `false` is a call that throws. -/
def store (answer : Answer) (row : Row) (backlog : Backlog Row Job) : Bool × Backlog Row Job :=
  match answer with
  | .works => (true, { backlog with rows := backlog.rows ++ [row] })
  | .fails => (false, backlog)
  | .lost => (false, { backlog with rows := backlog.rows ++ [row] })

/-- A job under an id that is there already is not added again. -/
def enqueue (job : Job) (backlog : Backlog Row Job) : Backlog Row Job :=
  if backlog.queue.any fun other => jobId other = jobId job then backlog
  else { backlog with queue := backlog.queue ++ [job] }

def add (answer : Answer) (job : Job) (backlog : Backlog Row Job) : Bool × Backlog Row Job :=
  match answer with
  | .works => (true, backlog.enqueue jobId job)
  | .fails => (false, backlog)
  | .lost => (false, backlog.enqueue jobId job)

def produce (stored added : Answer) (row : Row) (job : Job) (backlog : Backlog Row Job) : Bool × Backlog Row Job :=
  match backlog.store stored row with
  | (true, after) => after.add jobId added job
  | (false, after) => (false, after)

/-- A worker takes the job of an id and runs it. -/
def process (id : Nat) (backlog : Backlog Row Job) : Backlog Row Job :=
  if backlog.queue.any fun job => jobId job = id then
    { backlog with
      queue := backlog.queue.filter fun job => jobId job ≠ id
      processed := id :: backlog.processed }
  else backlog

/-- The call returns with the row of the id and its job there, or throws and has changed nothing. -/
def AllOrNothing (id : Nat) (before : Backlog Row Job) (result : Bool × Backlog Row Job) : Prop :=
  (result.1 = true ∧ (∃ row ∈ result.2.rows, rowId row = id) ∧ ∃ job ∈ result.2.queue, jobId job = id) ∨
    (result.1 = false ∧ result.2 = before)

/-- Every row has been processed or has a job to come. -/
def NoneStranded (backlog : Backlog Row Job) : Prop :=
  ∀ row ∈ backlog.rows, rowId row ∈ backlog.processed ∨ ∃ job ∈ backlog.queue, jobId job = rowId row

/-- Jobs and marks are of rows that are there. -/
structure Sourced (backlog : Backlog Row Job) : Prop where
  queue : ∀ job ∈ backlog.queue, jobId job ∈ backlog.rows.map rowId
  processed : ∀ id ∈ backlog.processed, id ∈ backlog.rows.map rowId

variable {rowId jobId} {backlog : Backlog Row Job} {row : Row} {job : Job} {stored added : Answer} {id : Nat}

theorem enqueue_has (jobId : Job → Nat) (job : Job) (backlog : Backlog Row Job) :
    ∃ other ∈ (backlog.enqueue jobId job).queue, jobId other = jobId job := by
  unfold enqueue
  split
  · rename_i there
    simpa using there
  · exact ⟨job, by simp, rfl⟩

theorem enqueue_rows (job : Job) (backlog : Backlog Row Job) : (backlog.enqueue jobId job).rows = backlog.rows := by
  unfold enqueue
  split <;> rfl

theorem enqueue_processed (job : Job) (backlog : Backlog Row Job) :
    (backlog.enqueue jobId job).processed = backlog.processed := by
  unfold enqueue
  split <;> rfl

theorem mem_enqueue {other : Job} (member : other ∈ (backlog.enqueue jobId job).queue) :
    other ∈ backlog.queue ∨ other = job := by
  unfold enqueue at member
  split at member
  · exact .inl member
  · simpa using member

theorem enqueue_mono {other : Job} (member : other ∈ backlog.queue) : other ∈ (backlog.enqueue jobId job).queue := by
  unfold enqueue
  split
  · exact member
  · simp [member]

/-- A producer keeps to all or nothing exactly where no call is cut off after the row is there. -/
theorem allOrNothing_produce_iff (same : jobId job = rowId row) :
    AllOrNothing rowId jobId (rowId row) backlog (backlog.produce jobId stored added row job) ↔
      stored = .fails ∨ (stored = .works ∧ added = .works) := by
  have grown (after : Backlog Row Job) (rows : after.rows = backlog.rows ++ [row]) : after ≠ backlog := by
    rintro rfl
    simpa using congrArg List.length rows
  cases stored with
  | fails => simp [produce, store, AllOrNothing]
  | lost =>
      refine iff_of_false ?_ (by simp)
      rintro (⟨returned, _⟩ | ⟨_, unchanged⟩)
      · cases returned
      · exact grown _ rfl unchanged
  | works =>
      have rows : (enqueue jobId job { backlog with rows := backlog.rows ++ [row] }).rows = backlog.rows ++ [row] :=
        enqueue_rows _ _
      cases added with
      | works =>
          obtain ⟨other, member, known⟩ := enqueue_has jobId job { backlog with rows := backlog.rows ++ [row] }
          refine iff_of_true (.inl ⟨rfl, ⟨row, ?_, rfl⟩, other, member, known.trans same⟩) (.inr ⟨rfl, rfl⟩)
          change row ∈ (enqueue jobId job { backlog with rows := backlog.rows ++ [row] }).rows
          simp [rows]
      | fails =>
          refine iff_of_false ?_ (by simp)
          rintro (⟨returned, _⟩ | ⟨_, unchanged⟩)
          · cases returned
          · exact grown _ rfl unchanged
      | lost =>
          refine iff_of_false ?_ (by simp)
          rintro (⟨returned, _⟩ | ⟨_, unchanged⟩)
          · cases returned
          · exact grown _ rows unchanged

/-- What a producer leaves: nothing, the row alone, or the row with its job. -/
theorem produce_cases (jobId : Job → Nat) (stored added : Answer) (row : Row) (job : Job)
    (backlog : Backlog Row Job) :
    (stored = .fails ∧ (backlog.produce jobId stored added row job).2 = backlog) ∨
      ((stored = .lost ∨ (stored = .works ∧ added = .fails)) ∧
        (backlog.produce jobId stored added row job).2 = { backlog with rows := backlog.rows ++ [row] }) ∨
      ((stored = .works ∧ added ≠ .fails) ∧ (backlog.produce jobId stored added row job).2 =
        enqueue jobId job { backlog with rows := backlog.rows ++ [row] }) := by
  cases stored with
  | fails => exact .inl ⟨rfl, rfl⟩
  | lost => exact .inr (.inl ⟨.inl rfl, rfl⟩)
  | works =>
      cases added with
      | fails => exact .inr (.inl ⟨.inr ⟨rfl, rfl⟩, rfl⟩)
      | works => exact .inr (.inr ⟨⟨rfl, by simp⟩, rfl⟩)
      | lost => exact .inr (.inr ⟨⟨rfl, by simp⟩, rfl⟩)

theorem Sourced.withRow (sourced : Sourced rowId jobId backlog) (row : Row) :
    Sourced rowId jobId { backlog with rows := backlog.rows ++ [row] } where
  queue job member := by simpa using .inl (List.mem_map.mp (sourced.queue job member))
  processed id member := by simpa using .inl (List.mem_map.mp (sourced.processed id member))

theorem Sourced.enqueue (sourced : Sourced rowId jobId backlog) (known : jobId job ∈ backlog.rows.map rowId) :
    Sourced rowId jobId (backlog.enqueue jobId job) where
  queue other member := by
    rw [enqueue_rows]
    rcases mem_enqueue member with old | rfl
    · exact sourced.queue other old
    · exact known
  processed id member := by
    rw [enqueue_rows]
    exact sourced.processed id (by rwa [enqueue_processed] at member)

theorem Sourced.produce (sourced : Sourced rowId jobId backlog) (same : jobId job = rowId row) :
    Sourced rowId jobId (backlog.produce jobId stored added row job).2 := by
  rcases produce_cases jobId stored added row job backlog with ⟨_, left⟩ | ⟨_, left⟩ | ⟨_, left⟩
  · rw [left]
    exact sourced
  · rw [left]
    exact sourced.withRow row
  · rw [left]
    exact (sourced.withRow row).enqueue (by simp [same])

theorem Sourced.process (sourced : Sourced rowId jobId backlog) (id : Nat) :
    Sourced rowId jobId (backlog.process jobId id) := by
  unfold Backlog.process
  split
  · rename_i taken
    obtain ⟨job, member, same⟩ := List.any_eq_true.mp taken
    have known : id ∈ backlog.rows.map rowId := of_decide_eq_true same ▸ sourced.queue job member
    exact ⟨fun other there => sourced.queue other (List.mem_filter.mp there).1,
      List.forall_mem_cons.mpr ⟨known, sourced.processed⟩⟩
  · exact sourced

/-- A producer strands its row exactly where the row is stored and its job never added. -/
theorem noneStranded_produce_iff (same : jobId job = rowId row) (sourced : Sourced rowId jobId backlog)
    (fresh : rowId row ∉ backlog.rows.map rowId) (good : NoneStranded rowId jobId backlog) :
    NoneStranded rowId jobId (backlog.produce jobId stored added row job).2 ↔
      stored = .fails ∨ (stored = .works ∧ added ≠ .fails) := by
  rcases produce_cases jobId stored added row job backlog with ⟨rfl, left⟩ | ⟨cut, left⟩ | ⟨kept, left⟩
  · rw [left]
    exact iff_of_true good (.inl rfl)
  · rw [left]
    refine iff_of_false (fun none => ?_) (by rcases cut with rfl | ⟨rfl, rfl⟩ <;> simp)
    rcases none row (by simp) with done | ⟨other, member, known⟩
    · exact fresh (sourced.processed _ done)
    · exact fresh (known ▸ sourced.queue other member)
  · rw [left]
    refine iff_of_true (fun other member => ?_) (.inr kept)
    rw [enqueue_rows, List.mem_append, List.mem_singleton] at member
    rw [enqueue_processed]
    rcases member with old | rfl
    · exact (good other old).imp_right fun ⟨job, there, known⟩ => ⟨job, enqueue_mono there, known⟩
    · obtain ⟨job, there, known⟩ := enqueue_has jobId job { backlog with rows := backlog.rows ++ [other] }
      exact .inr ⟨job, there, known.trans same⟩

theorem NoneStranded.process (good : NoneStranded rowId jobId backlog) (id : Nat) :
    NoneStranded rowId jobId (backlog.process jobId id) := by
  unfold Backlog.process
  split
  · intro row member
    rcases good row member with done | ⟨job, there, known⟩
    · exact .inl (List.mem_cons_of_mem _ done)
    · by_cases taken : jobId job = id
      · exact .inl (by simp [← known, taken])
      · exact .inr ⟨job, by simp [there, taken], known⟩
  · exact good

end Backlog

end Aicos.Transition
