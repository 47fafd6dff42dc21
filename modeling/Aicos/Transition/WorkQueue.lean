import Aicos.Transition.Backlog
import Aicos.Transition.Run
import Mathlib.Logic.Function.Basic

namespace Aicos.Transition

/-! A queue that holds a job under its key, and workers that take jobs out of it in runs.  A
run commits what its job does to the rows and then marks the key, and it may stop anywhere;
the queue gives a job again that threw, or whose worker it takes for dead. -/

/-- What a run has done last. -/
inductive WorkPhase where
  | taken
  | unmarked
  | handled
  /-- It has found the marker, or set it. -/
  | closed
  | thrown
deriving DecidableEq

/-- `active` names the run that holds the lock of the job. -/
inductive JobStanding where
  | waiting
  | active (run : Nat)
  | completed
  | failed
deriving DecidableEq

structure QueuedJob (Job : Type*) where
  job : Job
  attemptsMade : Nat
  standing : JobStanding

structure WorkRun (Job : Type*) where
  job : Job
  phase : WorkPhase

/-- A change of the rows: what a job does with what it draws, or something else. -/
inductive WorkCommit (Job Draw Rows : Type*) where
  | handled (job : Job) (draw : Draw)
  | other (change : Rows → Rows)

/-- What has happened: the jobs that were given to the queue, what was done to the rows, a
key for each attempt that failed, and the keys that were given up with no worker there. -/
structure WorkLog (Key Job Draw Rows : Type*) where
  added : List Job
  commits : List (WorkCommit Job Draw Rows)
  throws : List Key
  stalled : List Key

structure WorkQueue (Key Job Draw Rows : Type*) extends WorkLog Key Job Draw Rows where
  rows : Rows
  jobs : Key → Option (QueuedJob Job)
  marks : Key → Bool
  runs : Nat → Option (WorkRun Job)

inductive WorkAction (Key Draw Rows : Type*) where
  | take (run : Nat) (key : Key)
  | look (run : Nat) (answer : Answer)
  | handle (run : Nat) (draw : Draw) (answer : Answer)
  | mark (run : Nat) (answer : Answer)
  | settle (run : Nat)
  | stop (run : Nat)
  /-- The lock of an active job has run out. -/
  | stall (key : Key) (again : Bool)
  /-- A settled job makes room for others. -/
  | evict (key : Key)
  | expire (key : Key)
  | other (change : Rows → Rows)

variable {Key Job Draw Rows : Type*}

def WorkCommit.job? : WorkCommit Job Draw Rows → Option Job
  | .handled job _ => some job
  | .other _ => none

/-- `handle` is what a job does to the rows, with `none` where it throws. -/
def WorkCommit.apply (handle : Job → Draw → Rows → Option Rows) (rows : Rows) : WorkCommit Job Draw Rows → Rows
  | .handled job draw => (handle job draw rows).getD rows
  | .other change => change rows

namespace WorkLog

/-- The jobs whose effect was committed, in this order. -/
def handled (log : WorkLog Key Job Draw Rows) : List Job :=
  log.commits.filterMap WorkCommit.job?

variable (key : Job → Key)

/-- The key has had its effect, or the queue has given it up. -/
def Settled [DecidableEq Key] (limit : Nat) (log : WorkLog Key Job Draw Rows) (wanted : Key) : Prop :=
  wanted ∈ log.handled.map key ∨ limit ≤ log.throws.count wanted ∨ wanted ∈ log.stalled

structure JobSound [DecidableEq Key] (limit : Nat) (log : WorkLog Key Job Draw Rows) (wanted : Key)
    (queued : QueuedJob Job) : Prop where
  keyed : key queued.job = wanted
  added : queued.job ∈ log.added
  attempts : queued.attemptsMade ≤ log.throws.count wanted
  settled : queued.standing = .completed ∨ queued.standing = .failed → log.Settled key limit wanted

structure RunSound (log : WorkLog Key Job Draw Rows) (work : WorkRun Job) : Prop where
  added : work.job ∈ log.added
  done : work.phase = .handled ∨ work.phase = .closed → key work.job ∈ log.handled.map key

/-- A later log of the same queue. -/
structure Grows (log after : WorkLog Key Job Draw Rows) : Prop where
  added : log.added ⊆ after.added
  handled : log.handled ⊆ after.handled
  throws : log.throws.Sublist after.throws
  stalled : log.stalled ⊆ after.stalled

variable {key} {limit : Nat} {log after : WorkLog Key Job Draw Rows} {wanted : Key} (grows : log.Grows after)

include grows

theorem Grows.done (done : wanted ∈ log.handled.map key) : wanted ∈ after.handled.map key :=
  List.map_subset key grows.handled done

theorem RunSound.grow {work : WorkRun Job} (sound : RunSound key log work) : RunSound key after work :=
  ⟨grows.added sound.added, fun closed => grows.done (sound.done closed)⟩

variable [DecidableEq Key]

theorem Settled.grow (settled : log.Settled key limit wanted) : after.Settled key limit wanted := by
  obtain done | spent | stalled := settled
  · exact .inl (grows.done done)
  · exact .inr (.inl (Nat.le_trans spent (grows.throws.count_le wanted)))
  · exact .inr (.inr (grows.stalled stalled))

theorem JobSound.grow {queued : QueuedJob Job} (sound : JobSound key limit log wanted queued) :
    JobSound key limit after wanted queued where
  keyed := sound.keyed
  added := grows.added sound.added
  attempts := Nat.le_trans sound.attempts (grows.throws.count_le wanted)
  settled := fun closed => (sound.settled closed).grow grows

end WorkLog

namespace WorkQueue

open WorkLog

section Steps

variable [DecidableEq Key]

def start (rows : Rows) : WorkQueue Key Job Draw Rows where
  rows := rows
  jobs := fun _ => none
  marks := fun _ => false
  runs := fun _ => none
  added := []
  commits := []
  throws := []
  stalled := []

def putJob (queue : WorkQueue Key Job Draw Rows) (key : Key) (job : Option (QueuedJob Job)) :
    WorkQueue Key Job Draw Rows :=
  { queue with jobs := Function.update queue.jobs key job }

def putMark (queue : WorkQueue Key Job Draw Rows) (key : Key) (mark : Bool) : WorkQueue Key Job Draw Rows :=
  { queue with marks := Function.update queue.marks key mark }

def enter (queue : WorkQueue Key Job Draw Rows) (run : Nat) (work : Option (WorkRun Job)) :
    WorkQueue Key Job Draw Rows :=
  { queue with runs := Function.update queue.runs run work }

def commit (queue : WorkQueue Key Job Draw Rows) (rows : Rows) (commit : WorkCommit Job Draw Rows) :
    WorkQueue Key Job Draw Rows :=
  { queue with rows := rows, commits := queue.commits ++ [commit] }

variable (key : Job → Key) (limit : Nat) (handle : Job → Draw → Rows → Option Rows)

/-- A job is not added again while there is one under its key. -/
def add (queue : WorkQueue Key Job Draw Rows) (job : Job) : WorkQueue Key Job Draw Rows :=
  let queue := { queue with added := job :: queue.added }
  if (queue.jobs (key job)).isSome then queue
  else queue.putJob (key job) (some { job, attemptsMade := 0, standing := .waiting })

/-- What becomes of a job whose run is over; a run that has lost the lock changes nothing. -/
def release (queue : WorkQueue Key Job Draw Rows) (run : Nat) (work : WorkRun Job) : WorkQueue Key Job Draw Rows :=
  match queue.jobs (key work.job) with
  | some queued =>
      if queued.standing ≠ .active run then queue
      else if work.phase = .closed then queue.putJob (key work.job) (some { queued with standing := .completed })
      else
        { queue.putJob (key work.job) (some { queued with
            attemptsMade := queued.attemptsMade + 1
            standing := if queued.attemptsMade + 1 < limit then .waiting else .failed }) with
          throws := key work.job :: queue.throws }
  | none => queue

def work (queue : WorkQueue Key Job Draw Rows) : WorkAction Key Draw Rows → WorkQueue Key Job Draw Rows
  | .take run wanted =>
      match queue.runs run, queue.jobs wanted with
      | none, some { job, attemptsMade, standing := .waiting } =>
          (queue.putJob wanted (some { job, attemptsMade, standing := .active run })).enter run
            (some { job, phase := .taken })
      | _, _ => queue
  | .look run answer =>
      match queue.runs run with
      | some { job, phase := .taken } =>
          queue.enter run (some { job, phase :=
            if answer ≠ .works then .thrown else if queue.marks (key job) then .closed else .unmarked })
      | _ => queue
  | .handle run draw answer =>
      match queue.runs run with
      | some { job, phase := .unmarked } =>
          match answer, handle job draw queue.rows with
          | .works, some rows =>
              (queue.commit rows (.handled job draw)).enter run (some { job, phase := .handled })
          | .lost, some rows =>
              (queue.commit rows (.handled job draw)).enter run (some { job, phase := .thrown })
          | _, _ => queue.enter run (some { job, phase := .thrown })
      | _ => queue
  | .mark run answer =>
      match queue.runs run with
      | some { job, phase := .handled } =>
          (if answer = .fails then queue else queue.putMark (key job) true).enter run
            (some { job, phase := if answer = .works then .closed else .thrown })
      | _ => queue
  | .settle run =>
      match queue.runs run with
      | some { job, phase } =>
          if phase = .closed ∨ phase = .thrown then (queue.release key limit run { job, phase }).enter run none else queue
      | none => queue
  | .stop run => queue.enter run none
  | .stall wanted again =>
      match queue.jobs wanted with
      | some { job, attemptsMade, standing := .active _ } =>
          if again then queue.putJob wanted (some { job, attemptsMade, standing := .waiting })
          else
            { queue.putJob wanted (some { job, attemptsMade, standing := .failed }) with
              stalled := wanted :: queue.stalled }
      | _ => queue
  | .evict wanted =>
      match queue.jobs wanted with
      | some { standing := .completed, .. } | some { standing := .failed, .. } => queue.putJob wanted none
      | _ => queue
  | .expire wanted => queue.putMark wanted false
  | .other change => queue.commit (change queue.rows) (.other change)

/-- A job that some run is to take, or has taken. -/
def Open (queue : WorkQueue Key Job Draw Rows) (wanted : Key) : Prop :=
  ∃ queued, queue.jobs wanted = some queued ∧ queued.standing ≠ .completed ∧ queued.standing ≠ .failed

/-- Nothing that was added is forgotten, and nothing is handled that was not added. -/
structure Kept (first : Rows) (queue : WorkQueue Key Job Draw Rows) : Prop where
  jobs : ∀ wanted queued, queue.jobs wanted = some queued → JobSound key limit queue.toWorkLog wanted queued
  runs : ∀ run work, queue.runs run = some work → RunSound key queue.toWorkLog work
  marks : ∀ wanted, queue.marks wanted = true → wanted ∈ queue.handled.map key
  added : ∀ job ∈ queue.added, queue.jobs (key job) = none → queue.Settled key limit (key job)
  handled : ∀ job ∈ queue.handled, job ∈ queue.added
  rows : queue.rows = queue.commits.foldl (WorkCommit.apply handle) first

end Steps

variable {key : Job → Key} {limit : Nat} {handle : Job → Draw → Rows → Option Rows} {first : Rows}
  {queue : WorkQueue Key Job Draw Rows} {run : Nat} {job : Job} {wanted : Key}

theorem enter_runs (queue : WorkQueue Key Job Draw Rows) (run : Nat) (work : Option (WorkRun Job)) (other : Nat) :
    (queue.enter run work).runs other = if other = run then work else queue.runs other :=
  Function.update_apply ..

theorem handled_commit (queue : WorkQueue Key Job Draw Rows) (rows : Rows) (commit : WorkCommit Job Draw Rows) :
    (queue.commit rows commit).handled = queue.handled ++ commit.job?.toList := by
  cases commit <;> simp [WorkLog.handled, WorkQueue.commit, WorkCommit.job?]

theorem handled_known {draw : Draw} (known : job ∈ queue.added) (other : Job)
    (same : (WorkCommit.handled job draw : WorkCommit Job Draw Rows).job? = some other) : other ∈ queue.added :=
  Option.some.inj same ▸ known

theorem committed_rows {draw : Draw} {rows after : Rows} (applied : handle job draw rows = some after) :
    after = (WorkCommit.handled job draw).apply handle rows := by
  rw [WorkCommit.apply, applied, Option.getD_some]

theorem done_commit (queue : WorkQueue Key Job Draw Rows) (rows : Rows) (job : Job) (draw : Draw) :
    key job ∈ (queue.commit rows (.handled job draw)).handled.map key := by
  rw [handled_commit]
  exact List.mem_map_of_mem (List.mem_append_right _ (List.mem_singleton_self job))

/-! Runs that break off nowhere between their effect and its marker. -/

/-- No job is done twice, and what is done has its marker, or a run that is about to set it. -/
structure Once (key : Job → Key) (queue : WorkQueue Key Job Draw Rows) : Prop where
  holds : ∀ run work, queue.runs run = some work →
    ∃ queued, queue.jobs (key work.job) = some queued ∧ queued.standing = .active run
  fresh : ∀ run work, queue.runs run = some work → work.phase = .unmarked → key work.job ∉ queue.handled.map key
  marked : ∀ wanted ∈ queue.handled.map key, queue.marks wanted = true ∨
    ∃ run work, queue.runs run = some work ∧ key work.job = wanted ∧ work.phase = .handled
  distinct : (queue.handled.map key).Nodup

/-- A run may stop, and calls may fail, except between the effect of a job and its marker;
a job is taken for stalled only if its run is gone, and markers last. -/
def Graceful (key : Job → Key) (queue : WorkQueue Key Job Draw Rows) : WorkAction Key Draw Rows → Prop
  | .handle _ _ answer => answer ≠ .lost
  | .mark _ answer => answer ≠ .fails
  | .stop run => ∀ work, queue.runs run = some work → work.phase ≠ .handled
  | .stall wanted _ => ∀ run work, queue.runs run = some work → key work.job ≠ wanted
  | .expire wanted => wanted ∉ queue.handled.map key
  | _ => True

theorem once_start (key : Job → Key) (first : Rows) : Once key (start first : WorkQueue Key Job Draw Rows) where
  holds := nofun
  fresh := nofun
  marked := nofun
  distinct := List.nodup_nil

theorem Once.sole (once : Once key queue) {other : Nat} {work beside : WorkRun Job}
    (here : queue.runs run = some work) (there : queue.runs other = some beside)
    (same : key work.job = key beside.job) : run = other := by
  obtain ⟨queued, found, active⟩ := once.holds run work here
  obtain ⟨queued', found', active'⟩ := once.holds other beside there
  rw [same, found'] at found
  cases found
  rw [active'] at active
  exact (JobStanding.active.inj active).symm

theorem Once.enter (once : Once key queue) {work : Option (WorkRun Job)}
    (holds : ∀ entered, work = some entered →
      ∃ queued, queue.jobs (key entered.job) = some queued ∧ queued.standing = .active run)
    (fresh : ∀ entered, work = some entered → entered.phase = .unmarked → key entered.job ∉ queue.handled.map key)
    (left : ∀ old, queue.runs run = some old → old.phase = .handled → queue.marks (key old.job) = true) :
    Once key (queue.enter run work) := by
  refine ⟨fun other entered there => ?_, fun other entered there => ?_, fun wanted done => ?_, once.distinct⟩
  · rw [enter_runs] at there
    split at there
    · rename_i same
      exact same ▸ holds entered there
    · exact once.holds other entered there
  · rw [enter_runs] at there
    split at there
    · exact fresh entered there
    · exact once.fresh other entered there
  · obtain marked | ⟨other, old, there, named, phase⟩ := once.marked wanted done
    · exact .inl marked
    · by_cases same : other = run
      · exact .inl (named ▸ left old (same ▸ there) phase)
      · exact .inr ⟨other, old, by rw [enter_runs, if_neg same]; exact there, named, phase⟩

/-- A run goes on with its job. -/
theorem Once.advance (once : Once key queue) {work : WorkRun Job} {phase : WorkPhase} (here : queue.runs run = some work)
    (fresh : phase = .unmarked → key work.job ∉ queue.handled.map key)
    (left : work.phase = .handled → queue.marks (key work.job) = true) :
    Once key (queue.enter run (some ⟨work.job, phase⟩)) := by
  refine once.enter (fun entered same => ?_) (fun entered same => ?_) fun old there handled => ?_
  · cases same
    exact once.holds run work here
  · cases same
    exact fresh
  · rw [here] at there
    cases there
    exact left handled

theorem Once.relog (once : Once key queue) (throws stalled : List Key) :
    Once key { queue with throws := throws, stalled := stalled } :=
  ⟨once.holds, once.fresh, once.marked, once.distinct⟩

/-- The effect of a job and the phase of its run come together. -/
theorem Once.commit (once : Once key queue) (here : queue.runs run = some ⟨job, .unmarked⟩) (draw : Draw) (rows : Rows) :
    Once key ((queue.commit rows (.handled job draw)).enter run (some ⟨job, .handled⟩)) := by
  have done : ((queue.commit rows (.handled job draw)).enter run (some ⟨job, .handled⟩)).handled =
      queue.handled ++ [job] := handled_commit queue rows _
  have new : key job ∉ queue.handled.map key := once.fresh run _ here rfl
  refine ⟨fun other work there => ?_, fun other work there => ?_, fun wanted finished => ?_, ?_⟩
  · rw [enter_runs] at there
    split at there
    · rename_i same
      cases there
      exact same ▸ once.holds run _ here
    · exact once.holds other work there
  · intro unmarked
    rw [enter_runs] at there
    split at there
    · cases there
      cases unmarked
    · rename_i apart
      rw [done, List.map_append, List.mem_append, not_or]
      refine ⟨once.fresh other work there unmarked, fun same => apart ?_⟩
      exact once.sole there here (List.mem_singleton.mp same)
  · rw [done, List.map_append] at finished
    cases List.mem_append.mp finished with
    | inl old =>
        obtain marked | ⟨other, work, there, named, phase⟩ := once.marked wanted old
        · exact .inl marked
        · have apart : other ≠ run := by
            intro same
            rw [same, here] at there
            cases there
            cases phase
          exact .inr ⟨other, work, by rw [enter_runs, if_neg apart]; exact there, named, phase⟩
    | inr last => exact .inr ⟨run, _, by rw [enter_runs, if_pos rfl], (List.mem_singleton.mp last).symm, rfl⟩
  · rw [done, List.map_append]
    exact List.nodup_append.mpr ⟨once.distinct, List.pairwise_singleton .., fun old member other last same =>
      new (List.mem_singleton.mp last ▸ same ▸ member)⟩

section Keeping

variable [DecidableEq Key]

theorem kept_start (first : Rows) : Kept key limit handle first (start first) where
  jobs := nofun
  runs := nofun
  marks := nofun
  added := nofun
  handled := nofun
  rows := rfl

theorem putJob_jobs (queue : WorkQueue Key Job Draw Rows) (wanted : Key) (queued : Option (QueuedJob Job))
    (other : Key) : (queue.putJob wanted queued).jobs other = if other = wanted then queued else queue.jobs other :=
  Function.update_apply ..

theorem putMark_marks (queue : WorkQueue Key Job Draw Rows) (wanted : Key) (mark : Bool) (other : Key) :
    (queue.putMark wanted mark).marks other = if other = wanted then mark else queue.marks other :=
  Function.update_apply ..

theorem Kept.enter (kept : Kept key limit handle first queue) {work : Option (WorkRun Job)}
    (sound : ∀ entered, work = some entered → RunSound key queue.toWorkLog entered) :
    Kept key limit handle first (queue.enter run work) := by
  refine ⟨kept.jobs, fun other entered there => ?_, kept.marks, kept.added, kept.handled, kept.rows⟩
  rw [enter_runs] at there
  split at there
  · exact sound entered there
  · exact kept.runs other entered there

theorem Kept.putJob (kept : Kept key limit handle first queue) {queued : QueuedJob Job}
    (sound : JobSound key limit queue.toWorkLog wanted queued) :
    Kept key limit handle first (queue.putJob wanted (some queued)) := by
  refine ⟨fun other entered there => ?_, kept.runs, kept.marks, fun job member absent => ?_, kept.handled, kept.rows⟩
  · rw [putJob_jobs] at there
    split at there
    · rename_i same
      cases there
      exact same ▸ sound
    · exact kept.jobs other entered there
  · rw [putJob_jobs] at absent
    split at absent
    · cases absent
    · exact kept.added job member absent

theorem Kept.dropJob (kept : Kept key limit handle first queue) (settled : queue.Settled key limit wanted) :
    Kept key limit handle first (queue.putJob wanted none) := by
  refine ⟨fun other entered there => ?_, kept.runs, kept.marks, fun job member absent => ?_, kept.handled, kept.rows⟩
  · rw [putJob_jobs] at there
    split at there
    · cases there
    · exact kept.jobs other entered there
  · rw [putJob_jobs] at absent
    split at absent
    · rename_i same
      exact same ▸ settled
    · exact kept.added job member absent

theorem Kept.putMark (kept : Kept key limit handle first queue) {mark : Bool}
    (done : mark = true → wanted ∈ queue.handled.map key) :
    Kept key limit handle first (queue.putMark wanted mark) := by
  refine ⟨kept.jobs, kept.runs, fun other there => ?_, kept.added, kept.handled, kept.rows⟩
  rw [putMark_marks] at there
  split at there
  · rename_i same
    exact same ▸ done there
  · exact kept.marks other there

/-- A log that only grew, with the jobs, the runs and the markers as they were. -/
theorem Kept.grow (kept : Kept key limit handle first queue) {log : WorkLog Key Job Draw Rows} {rows : Rows}
    (grows : queue.toWorkLog.Grows log)
    (added : ∀ job ∈ log.added, job ∈ queue.added ∨ queue.jobs (key job) ≠ none)
    (handled : ∀ job ∈ log.handled, job ∈ log.added)
    (applied : rows = log.commits.foldl (WorkCommit.apply handle) first) :
    Kept key limit handle first { queue with toWorkLog := log, rows := rows } where
  jobs := fun wanted queued there => (kept.jobs wanted queued there).grow grows
  runs := fun run work there => (kept.runs run work there).grow grows
  marks := fun wanted there => grows.done (kept.marks wanted there)
  added := by
    intro job member absent
    obtain old | present := added job member
    · exact (kept.added job old absent).grow grows
    · exact absurd absent present
  handled := handled
  rows := applied

theorem Kept.commit (kept : Kept key limit handle first queue) {rows : Rows} {commit : WorkCommit Job Draw Rows}
    (known : ∀ job, commit.job? = some job → job ∈ queue.added) (applied : rows = commit.apply handle queue.rows) :
    Kept key limit handle first (queue.commit rows commit) := by
  refine kept.grow ⟨fun _ here => here, fun job here => ?_, .refl _, fun _ here => here⟩
    (fun job member => .inl member) (fun job member => ?_) ?_
  · exact (handled_commit queue rows commit).symm ▸ List.mem_append_left _ here
  · have member : job ∈ queue.handled ++ commit.job?.toList := handled_commit queue rows commit ▸ member
    cases List.mem_append.mp member with
    | inl old => exact kept.handled job old
    | inr new => exact known job (Option.mem_toList.mp new)
  · rw [List.foldl_append, ← kept.rows]
    exact applied

theorem Kept.add (kept : Kept key limit handle first queue) (job : Job) :
    Kept key limit handle first (queue.add key job) := by
  have grows : queue.toWorkLog.Grows { queue.toWorkLog with added := job :: queue.added } :=
    ⟨List.subset_cons_self .., fun _ here => here, .refl _, fun _ here => here⟩
  have handled : ∀ other ∈ queue.handled, other ∈ job :: queue.added := fun other member =>
    List.mem_cons_of_mem _ (kept.handled other member)
  unfold WorkQueue.add
  dsimp only
  split
  · rename_i there
    refine kept.grow grows (fun other member => ?_) handled kept.rows
    cases List.mem_cons.mp member with
    | inl same => exact .inr (same ▸ Option.isSome_iff_ne_none.mp there)
    | inr old => exact .inl old
  · refine ⟨fun wanted queued there => ?_, fun run work there => (kept.runs run work there).grow grows, kept.marks,
      fun other member absent => ?_, handled, kept.rows⟩
    · rw [putJob_jobs] at there
      split at there
      · rename_i same
        cases there
        exact ⟨same.symm, List.mem_cons_self, Nat.zero_le _, by simp⟩
      · exact (kept.jobs wanted queued there).grow grows
    · rw [putJob_jobs] at absent
      split at absent
      · cases absent
      · rename_i apart
        cases List.mem_cons.mp member with
        | inl same => exact absurd (congrArg key same) apart
        | inr old => exact (kept.added other old absent).grow grows

theorem Kept.release (kept : Kept key limit handle first queue) {work : WorkRun Job}
    (there : queue.runs run = some work) : Kept key limit handle first (queue.release key limit run work) := by
  unfold WorkQueue.release
  split
  · rename_i queued found
    have sound := kept.jobs _ queued found
    split
    · exact kept
    · split
      · rename_i closed
        have done := (kept.runs run work there).done (.inr closed)
        exact kept.putJob { sound with settled := fun _ => .inl done }
      · have grows : queue.toWorkLog.Grows { queue.toWorkLog with throws := key work.job :: queue.throws } :=
          ⟨fun _ here => here, fun _ here => here, List.sublist_cons_self .., fun _ here => here⟩
        have thrown : Kept key limit handle first { queue with throws := key work.job :: queue.throws } :=
          kept.grow grows (fun job member => .inl member) kept.handled kept.rows
        have more : queued.attemptsMade + 1 ≤ (key work.job :: queue.throws).count (key work.job) := by
          rw [List.count_cons_self]
          exact Nat.succ_le_succ sound.attempts
        refine thrown.putJob ⟨sound.keyed, sound.added, more, fun closed => ?_⟩
        split at closed
        · simp at closed
        · rename_i spent
          exact .inr (.inl (Nat.le_trans (Nat.le_of_not_lt spent) more))
  · exact kept

/-- Whatever a run, a lock or the queue itself does. -/
theorem Kept.work (kept : Kept key limit handle first queue) (action : WorkAction Key Draw Rows) :
    Kept key limit handle first (queue.work key limit handle action) := by
  cases action with
  | take run wanted =>
      simp only [WorkQueue.work]
      split
      · rename_i job attemptsMade _ found
        have sound := kept.jobs wanted _ found
        have placed : Kept key limit handle first (queue.putJob wanted (some ⟨job, attemptsMade, .active run⟩)) :=
          kept.putJob ⟨sound.keyed, sound.added, sound.attempts, by simp⟩
        exact placed.enter fun entered same => by cases same; exact ⟨sound.added, by simp⟩
      · exact kept
  | look run answer =>
      simp only [WorkQueue.work]
      split
      · rename_i job there
        refine kept.enter fun entered same => ?_
        cases same
        refine ⟨(kept.runs run _ there).added, fun closed => kept.marks (key job) ?_⟩
        split at closed
        · simp at closed
        · split at closed
          · assumption
          · simp at closed
      · exact kept
  | handle run draw answer =>
      simp only [WorkQueue.work]
      split
      · rename_i job there
        have known := (kept.runs run _ there).added
        split
        · rename_i rows applied
          have committed := kept.commit (handled_known known) (committed_rows applied)
          refine committed.enter fun entered same => ?_
          cases same
          exact ⟨known, fun _ => done_commit queue rows job draw⟩
        · rename_i rows applied
          have committed := kept.commit (handled_known known) (committed_rows applied)
          exact committed.enter fun entered same => by cases same; exact ⟨known, by simp⟩
        · exact kept.enter fun entered same => by cases same; exact ⟨known, by simp⟩
      · exact kept
  | mark run answer =>
      simp only [WorkQueue.work]
      split
      · rename_i job there
        have sound := kept.runs run _ there
        have done := sound.done (.inl rfl)
        split
        · exact kept.enter fun entered same => by cases same; exact ⟨sound.added, fun _ => done⟩
        · exact (kept.putMark fun _ => done).enter fun entered same => by cases same; exact ⟨sound.added, fun _ => done⟩
      · exact kept
  | settle run =>
      simp only [WorkQueue.work]
      split
      · rename_i job phase there
        split
        · exact (kept.release there).enter nofun
        · exact kept
      · exact kept
  | stop run => exact kept.enter nofun
  | stall wanted again =>
      simp only [WorkQueue.work]
      split
      · rename_i job attemptsMade run found
        have sound := kept.jobs wanted _ found
        split
        · exact kept.putJob ⟨sound.keyed, sound.added, sound.attempts, by simp⟩
        · have grows : queue.toWorkLog.Grows { queue.toWorkLog with stalled := wanted :: queue.stalled } :=
            ⟨fun _ here => here, fun _ here => here, .refl _, List.subset_cons_self ..⟩
          have given : Kept key limit handle first { queue with stalled := wanted :: queue.stalled } :=
            kept.grow grows (fun job member => .inl member) kept.handled kept.rows
          exact given.putJob ⟨sound.keyed, sound.added, sound.attempts, fun _ => .inr (.inr List.mem_cons_self)⟩
      · exact kept
  | evict wanted =>
      simp only [WorkQueue.work]
      split
      · rename_i found
        exact kept.dropJob ((kept.jobs wanted _ found).settled (.inl rfl))
      · rename_i found
        exact kept.dropJob ((kept.jobs wanted _ found).settled (.inr rfl))
      · exact kept
  | expire wanted => exact kept.putMark nofun
  | other change => exact kept.commit nofun rfl

theorem add_added (queue : WorkQueue Key Job Draw Rows) (job : Job) :
    (queue.add key job).added = job :: queue.added := by
  unfold WorkQueue.add
  dsimp only
  split <;> rfl

theorem release_added (queue : WorkQueue Key Job Draw Rows) (run : Nat) (work : WorkRun Job) :
    (queue.release key limit run work).added = queue.added := by
  unfold WorkQueue.release
  split
  · split
    · rfl
    · split <;> rfl
  · rfl

/-- Only what is given to the queue is in it. -/
theorem work_added (queue : WorkQueue Key Job Draw Rows) (action : WorkAction Key Draw Rows) :
    (queue.work key limit handle action).added = queue.added := by
  cases action with
  | take | look => simp only [WorkQueue.work]; split <;> rfl
  | stop | expire | other => rfl
  | evict => simp only [WorkQueue.work]; split <;> rfl
  | handle =>
      simp only [WorkQueue.work]
      split
      · split <;> rfl
      · rfl
  | mark =>
      simp only [WorkQueue.work]
      split
      · split <;> rfl
      · rfl
  | settle run =>
      simp only [WorkQueue.work]
      split
      · split
        · exact release_added queue run _
        · rfl
      · rfl
  | stall =>
      simp only [WorkQueue.work]
      split
      · split <;> rfl
      · rfl

theorem add_same (key : Job → Key) (queue : WorkQueue Key Job Draw Rows) (job : Job) :
    (queue.add key job).rows = queue.rows ∧ (queue.add key job).commits = queue.commits := by
  unfold WorkQueue.add
  dsimp only
  split <;> exact ⟨rfl, rfl⟩

theorem release_same (queue : WorkQueue Key Job Draw Rows) (run : Nat) (work : WorkRun Job) :
    (queue.release key limit run work).rows = queue.rows ∧
      (queue.release key limit run work).commits = queue.commits := by
  unfold WorkQueue.release
  split
  · split
    · exact ⟨rfl, rfl⟩
    · split <;> exact ⟨rfl, rfl⟩
  · exact ⟨rfl, rfl⟩

/-- What an action does to the rows: nothing, the effect of a job, or another change. -/
theorem work_effect (key : Job → Key) (limit : Nat) (handle : Job → Draw → Rows → Option Rows)
    (queue : WorkQueue Key Job Draw Rows) (action : WorkAction Key Draw Rows) :
    ((queue.work key limit handle action).rows = queue.rows ∧
      (queue.work key limit handle action).commits = queue.commits) ∨
    (∃ run draw answer job, action = .handle run draw answer ∧ queue.runs run = some ⟨job, .unmarked⟩ ∧
      handle job draw queue.rows = some (queue.work key limit handle action).rows ∧
      (queue.work key limit handle action).commits = queue.commits ++ [.handled job draw]) ∨
    ∃ change, action = .other change ∧ (queue.work key limit handle action).rows = change queue.rows ∧
      (queue.work key limit handle action).commits = queue.commits ++ [.other change] := by
  cases action with
  | take | look | evict =>
      refine .inl ?_
      simp only [WorkQueue.work]
      split <;> exact ⟨rfl, rfl⟩
  | stop | expire => exact .inl ⟨rfl, rfl⟩
  | handle run draw answer =>
      simp only [WorkQueue.work]
      split
      · rename_i job there
        split
        · rename_i rows applied
          exact .inr (.inl ⟨run, draw, .works, job, rfl, there, applied, rfl⟩)
        · rename_i rows applied
          exact .inr (.inl ⟨run, draw, .lost, job, rfl, there, applied, rfl⟩)
        · exact .inl ⟨rfl, rfl⟩
      · exact .inl ⟨rfl, rfl⟩
  | mark =>
      refine .inl ?_
      simp only [WorkQueue.work]
      split
      · split <;> exact ⟨rfl, rfl⟩
      · exact ⟨rfl, rfl⟩
  | settle run =>
      refine .inl ?_
      simp only [WorkQueue.work]
      split
      · split
        · exact release_same queue run _
        · exact ⟨rfl, rfl⟩
      · exact ⟨rfl, rfl⟩
  | stall =>
      refine .inl ?_
      simp only [WorkQueue.work]
      split
      · split <;> exact ⟨rfl, rfl⟩
      · exact ⟨rfl, rfl⟩
  | other change => exact .inr (.inr ⟨change, rfl, rfl, rfl⟩)

theorem Kept.settled_or_open (kept : Kept key limit handle first queue) (member : job ∈ queue.added) :
    queue.Settled key limit (key job) ∨ queue.Open (key job) := by
  cases found : queue.jobs (key job) with
  | none => exact .inl (kept.added job member found)
  | some queued =>
      have sound := kept.jobs _ queued found
      by_cases closed : queued.standing = .completed ∨ queued.standing = .failed
      · exact .inl (sound.settled closed)
      · exact .inr ⟨queued, found, not_or.mp closed⟩

/-- What a run without a failure comes to. -/
theorem handled_of_waiting (limit : Nat) (queue : WorkQueue Key Job Draw Rows) {attemptsMade : Nat} {draw : Draw}
    {rows : Rows} (waits : queue.jobs wanted = some ⟨job, attemptsMade, .waiting⟩) (idle : queue.runs run = none)
    (unmarked : queue.marks (key job) = false) (applied : handle job draw queue.rows = some rows) :
    key job ∈ (Transition.run (WorkQueue.work key limit handle) queue
      [.take run wanted, .look run .works, .handle run draw .works]).handled.map key := by
  let taken := (queue.putJob wanted (some ⟨job, attemptsMade, .active run⟩)).enter run (some ⟨job, .taken⟩)
  let looked := taken.enter run (some ⟨job, .unmarked⟩)
  have takes : queue.work key limit handle (.take run wanted) = taken := by
    simp only [WorkQueue.work, idle, waits, taken]
  have looks : taken.work key limit handle (.look run .works) = looked := by
    have there : taken.runs run = some ⟨job, .taken⟩ := by rw [enter_runs, if_pos rfl]
    have free : taken.marks (key job) = false := unmarked
    simp [WorkQueue.work, there, free, looked]
  have handles : looked.work key limit handle (.handle run draw .works) =
      (looked.commit rows (.handled job draw)).enter run (some ⟨job, .handled⟩) := by
    have there : looked.runs run = some ⟨job, .unmarked⟩ := by rw [enter_runs, if_pos rfl]
    have applies : handle job draw looked.rows = some rows := applied
    simp only [WorkQueue.work, there, applies]
  rw [run_cons, run_cons, run_cons, run_nil, takes, looks, handles]
  exact done_commit looked rows job draw

/-- A job that is open is handled as soon as its worker lives on and it does not throw. -/
theorem Kept.can_go_on (kept : Kept key limit handle first queue) {queued : QueuedJob Job}
    (found : queue.jobs wanted = some queued) (opened : queued.standing ≠ .completed ∧ queued.standing ≠ .failed)
    {draw : Draw} (works : (handle queued.job draw queue.rows).isSome) :
    ∃ actions, wanted ∈ (Transition.run (WorkQueue.work key limit handle) queue actions).handled.map key := by
  obtain ⟨job, attemptsMade, standing⟩ := queued
  obtain rfl : key job = wanted := (kept.jobs wanted _ found).keyed
  obtain ⟨rows, applied⟩ := Option.isSome_iff_exists.mp works
  cases marked : queue.marks (key job) with
  | true =>
      have done := kept.marks (key job) marked
      exact ⟨([] : List (WorkAction Key Draw Rows)), done⟩
  | false =>
      cases standing with
      | waiting =>
          have idle : (queue.enter 0 none).runs 0 = none := by rw [enter_runs, if_pos rfl]
          have done := handled_of_waiting limit (queue.enter 0 none) found idle marked applied
          exact ⟨[.stop 0, .take 0 (key job), .look 0 .works, .handle 0 draw .works], done⟩
      | active run =>
          have stalled : queue.work key limit handle (.stall (key job) true) =
              queue.putJob (key job) (some ⟨job, attemptsMade, .waiting⟩) := by
            simp [WorkQueue.work, found]
          have idle : ((queue.putJob (key job) (some ⟨job, attemptsMade, .waiting⟩)).enter 0 none).runs 0 = none := by
            rw [enter_runs, if_pos rfl]
          have waits : ((queue.putJob (key job) (some ⟨job, attemptsMade, .waiting⟩)).enter 0 none).jobs (key job) =
              some ⟨job, attemptsMade, .waiting⟩ := (putJob_jobs ..).trans (if_pos rfl)
          have done := handled_of_waiting limit _ waits idle marked applied
          refine ⟨[.stall (key job) true, .stop 0, .take 0 (key job), .look 0 .works, .handle 0 draw .works], ?_⟩
          rw [run_cons, stalled]
          exact done
      | completed => exact absurd rfl opened.1
      | failed => exact absurd rfl opened.2

theorem Once.putJob (once : Once key queue) (queued : Option (QueuedJob Job))
    (alone : ∀ run work, queue.runs run = some work → key work.job ≠ wanted) :
    Once key (queue.putJob wanted queued) := by
  refine ⟨fun run work there => ?_, once.fresh, once.marked, once.distinct⟩
  rw [putJob_jobs, if_neg (alone run work there)]
  exact once.holds run work there

theorem Once.putMark (once : Once key queue) (mark : Bool) (lasts : mark = false → wanted ∉ queue.handled.map key) :
    Once key (queue.putMark wanted mark) := by
  refine ⟨once.holds, once.fresh, fun other done => ?_, once.distinct⟩
  rw [putMark_marks]
  split
  · rename_i same
    cases mark with
    | true => exact .inl rfl
    | false => exact absurd (same ▸ done) (lasts rfl)
  · exact once.marked other done

theorem Once.add (once : Once key queue) (job : Job) : Once key (queue.add key job) := by
  unfold WorkQueue.add
  dsimp only
  split
  · exact ⟨once.holds, once.fresh, once.marked, once.distinct⟩
  · rename_i absent
    refine ⟨fun run work there => ?_, once.fresh, once.marked, once.distinct⟩
    obtain ⟨queued, found, active⟩ := once.holds run work there
    have apart : key work.job ≠ key job := fun same => absent (by rw [← same, found]; rfl)
    exact ⟨queued, by rw [putJob_jobs, if_neg apart]; exact found, active⟩

/-- A settled job and its run: the lock was the run's. -/
theorem Once.release (once : Once key queue) {work : WorkRun Job} (here : queue.runs run = some work)
    (ends : work.phase ≠ .handled) : Once key ((queue.release key limit run work).enter run none) := by
  have gone : Once key (queue.enter run none) := once.enter nofun nofun fun old there phase => by
    rw [here] at there
    cases there
    exact absurd phase ends
  have alone : ∀ other beside, (queue.enter run none).runs other = some beside → key beside.job ≠ key work.job := by
    intro other beside there same
    rw [enter_runs] at there
    split at there
    · cases there
    · rename_i apart
      exact apart (once.sole there here same)
  unfold WorkQueue.release
  split
  · split
    · exact gone
    · split
      · exact gone.putJob _ alone
      · exact (gone.putJob _ alone).relog (key work.job :: queue.throws) queue.stalled
  · exact gone

theorem Once.work (once : Once key queue) (kept : Kept key limit handle first queue)
    {action : WorkAction Key Draw Rows} (graceful : Graceful key queue action) :
    Once key (queue.work key limit handle action) := by
  cases action with
  | take run wanted =>
      simp only [WorkQueue.work]
      split
      · rename_i job attemptsMade idle found
        have keyed : key job = wanted := (kept.jobs wanted _ found).keyed
        have alone : ∀ other work, queue.runs other = some work → key work.job ≠ wanted := by
          intro other work there same
          obtain ⟨queued, held, active⟩ := once.holds other work there
          rw [same, found] at held
          cases held
          cases active
        refine (once.putJob _ alone).enter (fun entered same => ?_) (fun entered same => ?_) fun old there => ?_
        · cases same
          exact ⟨_, by rw [putJob_jobs, if_pos keyed], rfl⟩
        · cases same
          nofun
        · cases idle.symm.trans there
      · exact once
  | look run answer =>
      simp only [WorkQueue.work]
      split
      · rename_i job there
        refine once.advance there (fun unmarked done => ?_) nofun
        obtain marked | ⟨other, work, held, named, phase⟩ := once.marked (key job) done
        · rw [if_pos marked] at unmarked
          split at unmarked <;> cases unmarked
        · have same := once.sole held there named
          rw [same, there] at held
          cases held
          cases phase
      · exact once
  | handle run draw answer =>
      simp only [WorkQueue.work]
      split
      · rename_i job there
        split
        · exact once.commit there draw _
        · exact absurd rfl graceful
        · exact once.advance there nofun nofun
      · exact once
  | mark run answer =>
      simp only [WorkQueue.work]
      split
      · rename_i job there
        rw [if_neg graceful]
        have held : (queue.putMark (key job) true).runs run = some ⟨job, .handled⟩ := there
        refine (once.putMark true nofun).advance held (fun unmarked => ?_) fun _ => ?_
        · split at unmarked <;> cases unmarked
        · rw [putMark_marks, if_pos rfl]
      · exact once
  | settle run =>
      simp only [WorkQueue.work]
      split
      · rename_i job phase there
        split
        · rename_i ends
          exact once.release there fun handled => by
            dsimp only at handled
            simp [handled] at ends
        · exact once
      · exact once
  | stop run => exact once.enter nofun nofun fun old there phase => absurd phase (graceful old there)
  | stall wanted again =>
      simp only [WorkQueue.work]
      split
      · split
        · exact once.putJob _ graceful
        · exact (once.putJob _ graceful).relog queue.throws (wanted :: queue.stalled)
      · exact once
  | evict wanted =>
      have alone {queued : QueuedJob Job} (found : queue.jobs wanted = some queued)
          (closed : ∀ run, queued.standing ≠ .active run) :
          ∀ run work, queue.runs run = some work → key work.job ≠ wanted := by
        intro run work there same
        obtain ⟨held, here, active⟩ := once.holds run work there
        rw [same, found] at here
        cases here
        exact closed run active
      simp only [WorkQueue.work]
      split
      · rename_i found
        exact once.putJob none (alone found nofun)
      · rename_i found
        exact once.putJob none (alone found nofun)
      · exact once
  | expire wanted => exact once.putMark false fun _ => graceful
  | other change =>
      have same : (queue.commit (change queue.rows) (.other change)).handled = queue.handled :=
        (handled_commit ..).trans (List.append_nil _)
      refine ⟨once.holds, fun run work there phase => ?_, fun wanted done => ?_, ?_⟩
      · exact same ▸ once.fresh run work there phase
      · exact once.marked wanted (same ▸ done)
      · exact same ▸ once.distinct

end Keeping

end WorkQueue

end Aicos.Transition
