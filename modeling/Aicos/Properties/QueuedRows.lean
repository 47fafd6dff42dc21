import Aicos.Queue.Producers
import Aicos.Transition.Run

namespace Aicos.Properties

open Aicos.Data Aicos.Queue Aicos.Transition

/-! The row of a producer and its job.  Nothing takes the row back when the job cannot
be added, and nothing looks for rows without a job. -/

/-- The row of a call and its job are there. -/
def Made (keys : KeySource) (before after : Producers) : ProducerCall → Prop
  | .createRequest _ _ _ =>
      (∃ row ∈ after.dsar.rows, row.id = keys.next (before.dsar.rows.map fun row => row.id)) ∧
        ∃ job ∈ after.dsar.queue, job.dsarRequestId = keys.next (before.dsar.rows.map fun row => row.id)
  | .createExtraction _ =>
      (∃ row ∈ after.extraction.rows, row.id = keys.next (before.extraction.rows.map fun row => row.id)) ∧
        ∃ job ∈ after.extraction.queue, job.extractionRunId = keys.next (before.extraction.rows.map fun row => row.id)
  | .enqueue _ =>
      (∃ row ∈ after.notifications.rows, row.id = keys.next (before.notifications.rows.map fun row => row.id)) ∧
        ∃ job ∈ after.notifications.queue,
          job.notificationId = keys.next (before.notifications.rows.map fun row => row.id)

/-- The call returns with its row and its job there, or throws and has changed nothing. -/
def AllOrNothingCall (keys : KeySource) (answers : Answers) (state : Producers) (call : ProducerCall) : Prop :=
  ((call.run keys answers state).1 = .ok () ∧ Made keys state (call.run keys answers state).2 call) ∨
    ((∃ error, (call.run keys answers state).1 = .error error) ∧ (call.run keys answers state).2 = state)

/-- A call of `enqueue` without a destination has nothing to send. -/
def Sends : ProducerCall → Prop
  | .enqueue n => n.hasDestination = true
  | _ => True

/-- The call comes as far as its row. -/
def Reaches (answers : Answers) (state : Producers) : ProducerCall → Prop
  | .createExtraction dto => answers.found = .works ∧ ∃ media ∈ state.mediaAssets, media.id = dto.mediaId
  | .createRequest _ _ _ => True
  | .enqueue n => n.hasDestination = true

/-- A failure, if any, strikes before the row is committed. -/
def Unbroken (answers : Answers) : Prop :=
  answers.stored = .fails ∨ (answers.stored = .works ∧ answers.added = .works)

variable {keys : KeySource} {answers : Answers} {state : Producers} {call : ProducerCall}

/-- A producer that has come to its row; `put` is where its backlog stands among the others. -/
theorem produced_iff {Row Job : Type} {rowId : Row → Nat} {jobId : Job → Nat} {row : Row} {job : Job}
    (backlog : Backlog Row Job) (put : Backlog Row Job → Producers) (made : Producers → Prop)
    (same : jobId job = rowId row) (injective : Function.Injective put)
    (sees : ∀ after, made (put after) ↔
      (∃ other ∈ after.rows, rowId other = rowId row) ∧ ∃ other ∈ after.queue, jobId other = rowId row) :
    ((replied (backlog.produce jobId answers.stored answers.added row job).1 = .ok () ∧
        made (put (backlog.produce jobId answers.stored answers.added row job).2)) ∨
      ((∃ error, replied (backlog.produce jobId answers.stored answers.added row job).1 = .error error) ∧
        put (backlog.produce jobId answers.stored answers.added row job).2 = put backlog)) ↔ Unbroken answers := by
  have whole : Backlog.AllOrNothing rowId jobId (rowId row) backlog
      (backlog.produce jobId answers.stored answers.added row job) ↔ Unbroken answers :=
    Backlog.allOrNothing_produce_iff same
  rw [← whole]
  rcases backlog.produce jobId answers.stored answers.added row job with ⟨_ | _, after⟩ <;>
    simp [replied, Backlog.AllOrNothing, sees, injective.eq_iff]

/-- The row that a call of `create` stores. -/
def extractionRow (keys : KeySource) (state : Producers) (media : UploadedMedia) (dto : CreateExtractionDto) :
    QueuedExtraction :=
  newExtraction (keys.next (state.extraction.rows.map fun row => row.id)) media dto

theorem run_createExtraction {dto : CreateExtractionDto} {media : UploadedMedia} (works : answers.found = .works)
    (found : (state.mediaAssets.find? fun media => media.id = dto.mediaId) = some media) :
    ProducerCall.run keys answers state (.createExtraction dto) =
      (replied (state.extraction.produce ExtractionJobData.extractionRunId answers.stored answers.added
          (extractionRow keys state media dto)
          (extractionJobData state.tenantId media (extractionRow keys state media dto))).1,
        { state with extraction := (state.extraction.produce ExtractionJobData.extractionRunId answers.stored
            answers.added (extractionRow keys state media dto)
            (extractionJobData state.tenantId media (extractionRow keys state media dto))).2 }) := by
  simp only [ProducerCall.run, createExtraction, works, found]
  rfl

/-- The row that a call of `enqueue` stores. -/
def notificationRow (keys : KeySource) (state : Producers) (n : EnqueueNotification) : Notification :=
  newNotification (keys.next (state.notifications.rows.map fun row => row.id)) n

theorem run_enqueue {n : EnqueueNotification} (destination : n.hasDestination = true) :
    ProducerCall.run keys answers state (.enqueue n) =
      (replied (state.notifications.produce NotificationJobData.notificationId answers.stored answers.added
          (notificationRow keys state n) ⟨state.tenantId, (notificationRow keys state n).id⟩).1,
        { state with notifications := (state.notifications.produce NotificationJobData.notificationId answers.stored
            answers.added (notificationRow keys state n) ⟨state.tenantId, (notificationRow keys state n).id⟩).2 }) := by
  simp only [ProducerCall.run, enqueue, destination, if_true]
  rfl

theorem run_unreached (keys : KeySource) (unreached : ¬ Reaches answers state call) :
    (call.run keys answers state).2 = state ∧
      (Sends call → ∃ error, (call.run keys answers state).1 = .error error) := by
  cases call with
  | createRequest type subjectEmail now => exact absurd trivial unreached
  | createExtraction dto =>
      by_cases works : answers.found = .works
      · have missing : (state.mediaAssets.find? fun media => media.id = dto.mediaId) = none := by
          refine List.find?_eq_none.mpr fun media member same => unreached ⟨works, media, member, ?_⟩
          simpa using same
        simp [ProducerCall.run, createExtraction, works, missing]
      · simp [ProducerCall.run, createExtraction, works]
  | enqueue n =>
      refine ⟨?_, fun sends => absurd sends unreached⟩
      have silent : ¬ n.hasDestination = true := unreached
      rw [ProducerCall.run, enqueue, if_neg silent]

theorem find_of_reaches {dto : CreateExtractionDto} (reaches : Reaches answers state (.createExtraction dto)) :
    answers.found = .works ∧ ∃ media, (state.mediaAssets.find? fun media => media.id = dto.mediaId) = some media := by
  obtain ⟨works, media, member, same⟩ := reaches
  exact ⟨works, Option.isSome_iff_exists.mp (List.find?_isSome.mpr ⟨media, member, by simpa using same⟩)⟩

/-- A call that has something to send keeps to all or nothing exactly where it does not
come as far as its row, or no failure strikes once the row is there. -/
theorem allOrNothingCall_iff (keys : KeySource) (answers : Answers) (state : Producers) (sends : Sends call) :
    AllOrNothingCall keys answers state call ↔ (Reaches answers state call → Unbroken answers) := by
  by_cases reaches : Reaches answers state call
  · rw [imp_iff_right reaches]
    cases call with
    | createRequest type subjectEmail now =>
        exact produced_iff state.dsar (fun dsar => { state with dsar })
          (fun after => Made keys state after (.createRequest type subjectEmail now)) rfl
          (fun _ _ same => congrArg Producers.dsar same) fun _ => Iff.rfl
    | createExtraction dto =>
        obtain ⟨works, media, found⟩ := find_of_reaches reaches
        rw [AllOrNothingCall, run_createExtraction works found]
        exact produced_iff state.extraction (fun extraction => { state with extraction })
          (fun after => Made keys state after (.createExtraction dto)) rfl
          (fun _ _ same => congrArg Producers.extraction same) fun _ => Iff.rfl
    | enqueue n =>
        rw [AllOrNothingCall, run_enqueue reaches]
        exact produced_iff state.notifications (fun notifications => { state with notifications })
          (fun after => Made keys state after (.enqueue n)) rfl
          (fun _ _ same => congrArg Producers.notifications same) fun _ => Iff.rfl
  · obtain ⟨unchanged, throws⟩ := run_unreached keys reaches
    exact iff_of_true (.inr ⟨throws sends, unchanged⟩) fun reached => absurd reached reaches

/-- Every row has been processed or has a job to come. -/
structure NoneStranded (state : Producers) : Prop where
  dsar : state.dsar.NoneStranded (fun row => row.id) DsarJobData.dsarRequestId
  extraction : state.extraction.NoneStranded (fun row => row.id) ExtractionJobData.extractionRunId
  notifications : state.notifications.NoneStranded (fun row => row.id) NotificationJobData.notificationId

/-- Jobs are of rows that are there. -/
structure JobsSourced (state : Producers) : Prop where
  dsar : state.dsar.Sourced (fun row => row.id) DsarJobData.dsarRequestId
  extraction : state.extraction.Sourced (fun row => row.id) ExtractionJobData.extractionRunId
  notifications : state.notifications.Sourced (fun row => row.id) NotificationJobData.notificationId

/-- The job of a call is added where its row is stored. -/
def AddsJob (state : Producers) : ProducerAction → Prop
  | .call call answers =>
      Reaches answers state call → answers.stored = .fails ∨ (answers.stored = .works ∧ answers.added ≠ .fails)
  | _ => True

theorem JobsSourced.step (sourced : JobsSourced state) (action : ProducerAction) :
    JobsSourced (state.step keys action) := by
  cases action with
  | call call answers =>
      by_cases reaches : Reaches answers state call
      · cases call with
        | createRequest type subjectEmail now => exact { sourced with dsar := sourced.dsar.produce rfl }
        | createExtraction dto =>
            obtain ⟨works, media, found⟩ := find_of_reaches reaches
            rw [Producers.step, run_createExtraction works found]
            exact { sourced with extraction := sourced.extraction.produce rfl }
        | enqueue n =>
            rw [Producers.step, run_enqueue reaches]
            exact { sourced with notifications := sourced.notifications.produce rfl }
      · rw [Producers.step, (run_unreached keys reaches).1]
        exact sourced
  | processRequest id => exact { sourced with dsar := sourced.dsar.process id }
  | processExtraction id => exact { sourced with extraction := sourced.extraction.process id }
  | processNotification id => exact { sourced with notifications := sourced.notifications.process id }

theorem noneStranded_step_iff (sourced : JobsSourced state) (good : NoneStranded state) (action : ProducerAction) :
    NoneStranded (state.step keys action) ↔ AddsJob state action := by
  cases action with
  | call call answers =>
      by_cases reaches : Reaches answers state call
      · rw [AddsJob, imp_iff_right reaches]
        cases call with
        | createRequest type subjectEmail now =>
            refine Iff.trans ⟨NoneStranded.dsar, fun kept => { good with dsar := kept }⟩ ?_
            exact Backlog.noneStranded_produce_iff rfl sourced.dsar (keys.fresh _) good.dsar
        | createExtraction dto =>
            obtain ⟨works, media, found⟩ := find_of_reaches reaches
            rw [Producers.step, run_createExtraction works found]
            refine Iff.trans ⟨NoneStranded.extraction, fun kept => { good with extraction := kept }⟩ ?_
            exact Backlog.noneStranded_produce_iff rfl sourced.extraction (keys.fresh _) good.extraction
        | enqueue n =>
            rw [Producers.step, run_enqueue reaches]
            refine Iff.trans ⟨NoneStranded.notifications, fun kept => { good with notifications := kept }⟩ ?_
            exact Backlog.noneStranded_produce_iff rfl sourced.notifications (keys.fresh _) good.notifications
      · rw [Producers.step, (run_unreached keys reaches).1]
        exact iff_of_true good fun reached => absurd reached reaches
  | processRequest id => exact iff_of_true { good with dsar := good.dsar.process id } trivial
  | processExtraction id => exact iff_of_true { good with extraction := good.extraction.process id } trivial
  | processNotification id => exact iff_of_true { good with notifications := good.notifications.process id } trivial

/-- A call that has something to send keeps to all or nothing exactly where nothing
fails once its row is there, one that has nothing to send changes nothing, and rows
without a job are left behind exactly by a call whose row is stored and whose job is not added. -/
theorem all_or_nothing_iff_unbroken (keys : KeySource) (sourced : JobsSourced state) (good : NoneStranded state)
    (actions : List ProducerAction) :
    (∀ answers state call, Sends call →
        (AllOrNothingCall keys answers state call ↔ (Reaches answers state call → Unbroken answers))) ∧
      (∀ answers state call, ¬ Sends call → call.run keys answers state = (.ok (), state)) ∧
      (Visits (Producers.step keys) NoneStranded state actions ↔ Along (Producers.step keys) AddsJob state actions) := by
  refine ⟨fun answers state _ sends => allOrNothingCall_iff keys answers state sends, ?_, ?_⟩
  · intro answers state call silent
    cases call with
    | enqueue n =>
        have empty : ¬ n.hasDestination = true := silent
        rw [ProducerCall.run, enqueue, if_neg empty]
    | _ => exact absurd trivial silent
  · exact visits_iff_along (fun _ action _ sourced => sourced.step action)
      (fun _ action _ sourced good => noneStranded_step_iff sourced good action) (fun _ _ => trivial) sourced good

def emptyQueues : Producers where
  tenantId := 1
  mediaAssets := []
  dsar := ⟨[], [], []⟩
  extraction := ⟨[], [], []⟩
  notifications := ⟨[], [], []⟩

theorem emptyQueues_sourced : JobsSourced emptyQueues where
  dsar := ⟨by simp [emptyQueues], by simp [emptyQueues]⟩
  extraction := ⟨by simp [emptyQueues], by simp [emptyQueues]⟩
  notifications := ⟨by simp [emptyQueues], by simp [emptyQueues]⟩

theorem emptyQueues_noneStranded : NoneStranded emptyQueues where
  dsar := by simp [Backlog.NoneStranded, emptyQueues]
  extraction := by simp [Backlog.NoneStranded, emptyQueues]
  notifications := by simp [Backlog.NoneStranded, emptyQueues]

def eraseAda : ProducerCall :=
  .createRequest .erasure "ada@example.test" 0

/-- Redis is down: the request throws, its row stays, and no job will ever fulfil it. -/
theorem erasure_request_stranded :
    (¬ ∀ keys answers state call, Sends call → AllOrNothingCall keys answers state call) ∧
      ¬ ∀ keys state actions, JobsSourced state → NoneStranded state →
        Visits (Producers.step keys) NoneStranded state actions := by
  constructor
  · intro always
    rcases always .counting ⟨.works, .works, .fails⟩ emptyQueues eraseAda trivial with ⟨returned, _⟩ | ⟨_, unchanged⟩
    · cases returned
    · have rows := congrArg (fun state => state.dsar.rows.length) unchanged
      cases rows
  · intro always
    have visits := always .counting emptyQueues [.call eraseAda ⟨.works, .works, .fails⟩] emptyQueues_sourced
      emptyQueues_noneStranded
    rcases visits.last.dsar (newRequest 1 .erasure "ada@example.test" 0) (List.mem_singleton_self _) with
      done | ⟨_, there, _⟩
    · cases done
    · cases there

theorem all_or_nothing_iff_unbroken_erasure :
    (∀ answers state call, Sends call →
        (AllOrNothingCall .counting answers state call ↔ (Reaches answers state call → Unbroken answers))) ∧
      (∀ answers state call, ¬ Sends call → call.run .counting answers state = (.ok (), state)) ∧
      (Visits (Producers.step .counting) NoneStranded emptyQueues
          [.call eraseAda ⟨.works, .works, .works⟩, .processRequest 1] ↔
        Along (Producers.step .counting) AddsJob emptyQueues
          [.call eraseAda ⟨.works, .works, .works⟩, .processRequest 1]) :=
  all_or_nothing_iff_unbroken .counting emptyQueues_sourced emptyQueues_noneStranded _

end Aicos.Properties
