import Aicos.Extraction.Runs
import Aicos.Transition.Run

namespace Aicos.Properties

open Aicos.Commerce Aicos.Data Aicos.Extraction Aicos.Transition

/-! What the review screen counts.  Only the last status stops a repeated run, so
each transaction before it can leave its rows more than once. -/

/-- Exactly one review item, and it is PENDING. -/
def PendingOnce (rows : ExtractionRows) (result : ExtractionResult) : Prop :=
  ∃ item, rows.reviewItems.filter (fun item => item.resultId = result.id) = [item] ∧ item.decision = .pending

structure Counts (jobId : JobId) (rows : ExtractionRows) (job : ExtractionJob) : Prop where
  frames : (framesOf jobId rows).length = job.framesExtracted
  indices : ((framesOf jobId rows).map (·.frameIndex)).Nodup
  results : (resultsOf jobId rows).length = job.productsFound
  items : ∀ result ∈ resultsOf jobId rows, PendingOnce rows result

/-- A job that awaits review shows what one run has found. -/
def Reviewable (jobId : JobId) (rows : ExtractionRows) : Prop :=
  ∀ job, findJob jobId rows = some job → job.status = .awaitingReview → Counts jobId rows job

/-- The run that hands a job over is the only one that has stored frames for it,
and none has stored results. -/
def HandsOverAlone (jobId : JobId) (pipeline : Pipeline) : RunAction → Prop
  | .storeResults run ids _ => (∃ frameIds analysis, pipeline.runs run = some (.analyzed frameIds analysis)) →
      freshFrom ids.row pipeline.rows = true →
      pipeline.batches.length = 1 ∧ resultsOf jobId pipeline.rows = []
  | _ => True

def RunPhase.framed : RunPhase → Bool
  | .framed _ | .analyzed _ _ => true
  | _ => false

/-- What holds of the rows whatever the runs do. -/
structure Accounted (jobId : JobId) (pipeline : Pipeline) : Prop where
  job : ∃ job, findJob jobId pipeline.rows = some job ∧
    ∀ last ∈ pipeline.batches.getLast?, job.framesExtracted = last
  count : (framesOf jobId pipeline.rows).length = pipeline.batches.sum
  positive : ∀ size ∈ pipeline.batches, 0 < size
  indices : pipeline.batches.length ≤ 1 → ((framesOf jobId pipeline.rows).map (·.frameIndex)).Nodup
  framed : ∀ run phase, pipeline.runs run = some phase → RunPhase.framed phase = true → pipeline.batches ≠ []
  prepared : ∀ run media sampled, pipeline.runs run = some (.prepared media sampled) →
    (sampled.map (·.frameIndex)).Nodup
  items : ∀ result ∈ resultsOf jobId pipeline.rows, PendingOnce pipeline.rows result

variable {jobId : JobId} {bucket : Option String} {pipeline : Pipeline}

theorem runs_enter (pipeline : Pipeline) (run other : RunId) (phase : Option RunPhase) :
    (pipeline.enter run phase).runs other = if other = run then phase else pipeline.runs other := by
  by_cases same : other = run <;> simp [Pipeline.enter, same]

/-- A step of a run that leaves the rows alone. -/
theorem Accounted.enter {run : RunId} {phase : Option RunPhase} (tracked : Accounted jobId pipeline)
    (framed : ∀ entered, phase = some entered → RunPhase.framed entered = true → pipeline.batches ≠ [])
    (prepared : ∀ media sampled, phase = some (.prepared media sampled) → (sampled.map (·.frameIndex)).Nodup) :
    Accounted jobId (pipeline.enter run phase) := by
  refine ⟨tracked.job, tracked.count, tracked.positive, tracked.indices, ?_, ?_, tracked.items⟩
  · intro other entered there
    rw [runs_enter] at there
    split at there
    · exact framed entered there
    · exact tracked.framed other entered there
  · intro other media sampled there
    rw [runs_enter] at there
    split at there
    · exact prepared media sampled there
    · exact tracked.prepared other media sampled there

section StoreResults

variable {rows : ExtractionRows} {frameIds : List FrameId} {analysis : Analysis} {ids : DrawnIds}

theorem newResults_ids (jobId : JobId) (bucket : Option String) (frameIds : List FrameId) (analysis : Analysis)
    (ids : DrawnIds) :
    (newResults jobId bucket frameIds analysis ids).map (·.id) =
      (List.range analysis.products.length).map (ids.row + ·) := by
  apply List.ext_getElem <;> simp [newResults, resultRow]

theorem newResults_nodup : ((newResults jobId bucket frameIds analysis ids).map (·.id)).Nodup := by
  rw [newResults_ids]
  exact List.nodup_range.map fun _ _ same => Nat.add_left_cancel same

theorem newResults_ge {result : ExtractionResult} (member : result ∈ newResults jobId bucket frameIds analysis ids) :
    ids.row ≤ result.id := by
  obtain ⟨index, bound, rfl⟩ := List.mem_mapIdx.mp member
  exact Nat.le_add_right _ _

theorem reviewItem_filter {results : List ExtractionResult} {result : ExtractionResult}
    (distinct : (results.map (·.id)).Nodup) (member : result ∈ results) :
    (results.map reviewItem).filter (fun item => item.resultId = result.id) = [reviewItem result] := by
  induction results with
  | nil => cases member
  | cons first rest ih =>
      obtain ⟨absent, distinct⟩ := List.nodup_cons.mp distinct
      rcases List.mem_cons.mp member with rfl | later
      · have others : (rest.map reviewItem).filter (fun item => item.resultId = result.id) = [] := by
          refine List.filter_eq_nil_iff.mpr fun item present => ?_
          obtain ⟨other, there, rfl⟩ := List.mem_map.mp present
          intro same
          exact absent (List.mem_map.mpr ⟨other, there, of_decide_eq_true same⟩)
        simp only [List.map_cons, List.filter_cons, others]
        simp [reviewItem]
      · have apart : first.id ≠ result.id := fun same =>
          absent (List.mem_map.mpr ⟨result, later, same.symm⟩)
        simpa [reviewItem, apart] using ih distinct later

theorem pendingOnce_storeResults (fresh : freshFrom ids.row rows = true)
    (items : ∀ result ∈ resultsOf jobId rows, PendingOnce rows result) (now : Instant) :
    ∀ result ∈ resultsOf jobId (storeResults jobId bucket frameIds analysis ids now rows),
      PendingOnce (storeResults jobId bucket frameIds analysis ids now rows) result := by
  obtain ⟨_, results, reviewItems⟩ := of_decide_eq_true fresh
  intro result member
  have appended : (storeResults jobId bucket frameIds analysis ids now rows).reviewItems =
      rows.reviewItems ++ (newResults jobId bucket frameIds analysis ids).map reviewItem := rfl
  rw [PendingOnce, appended, List.filter_append]
  rw [resultsOf_storeResults] at member
  rcases List.mem_append.mp member with old | new
  · obtain ⟨item, single, pending⟩ := items result old
    have none : ((newResults jobId bucket frameIds analysis ids).map reviewItem).filter
        (fun item => item.resultId = result.id) = [] := by
      refine List.filter_eq_nil_iff.mpr fun other present => ?_
      obtain ⟨later, there, rfl⟩ := List.mem_map.mp present
      have before : result.id < ids.row :=
        of_decide_eq_true (List.all_eq_true.mp results result (List.mem_of_mem_filter old))
      have apart : later.id ≠ result.id := Nat.ne_of_gt (Nat.lt_of_lt_of_le before (newResults_ge there))
      exact fun same => apart (of_decide_eq_true same)
    exact ⟨item, by rw [single, none, List.append_nil], pending⟩
  · have none : rows.reviewItems.filter (fun item => item.resultId = result.id) = [] := by
      refine List.filter_eq_nil_iff.mpr fun item present => ?_
      have before : item.resultId < ids.row := of_decide_eq_true (List.all_eq_true.mp reviewItems item present)
      have apart : item.resultId ≠ result.id := Nat.ne_of_lt (Nat.lt_of_lt_of_le before (newResults_ge new))
      simpa using apart
    exact ⟨reviewItem result, by rw [none, List.nil_append, reviewItem_filter newResults_nodup new], rfl⟩

end StoreResults

theorem Accounted.claim {run : RunId} (tracked : Accounted jobId pipeline) (now : Instant)
    (media : Option SourceMedia) :
    Accounted jobId { pipeline.enter run (some (.claimed media)) with
      rows := updateJob jobId (ExtractionJob.ingesting now) pipeline.rows } := by
  obtain ⟨job, found, last⟩ := tracked.job
  have entered : Accounted jobId (pipeline.enter run (some (.claimed media))) :=
    tracked.enter (by simp [RunPhase.framed]) (by simp)
  have updated : findJob jobId (updateJob jobId (ExtractionJob.ingesting now) pipeline.rows) =
      some (job.ingesting now) := by
    rw [findJob_claim, found, Option.map_some]
  exact ⟨⟨_, updated, last⟩, tracked.count, tracked.positive, tracked.indices, entered.framed, entered.prepared,
    tracked.items⟩

theorem Accounted.storeFrames {run : RunId} {media : Option SourceMedia} {sampled : List SampledFrame}
    (tracked : Accounted jobId pipeline) (ready : pipeline.runs run = some (.prepared media sampled))
    (bucket : Option String) (ids : DrawnIds) :
    Accounted jobId { pipeline.enter run (some (.framed ((newFrames jobId media bucket ids sampled).map (·.id)))) with
      rows := storeFrames jobId media bucket ids sampled pipeline.rows
      batches := pipeline.batches ++ [(newFrames jobId media bucket ids sampled).length] } := by
  obtain ⟨job, found, _⟩ := tracked.job
  refine ⟨?_, ?_, ?_, ?_, ?_, ?_, tracked.items⟩
  · refine ⟨job.analyzing (newFrames jobId media bucket ids sampled).length, ?_, ?_⟩
    · rw [findJob_storeFrames, found, Option.map_some]
    · simp [ExtractionJob.analyzing]
  · rw [framesOf_storeFrames, List.length_append, tracked.count]
    simp
  · intro size member
    rcases List.mem_append.mp member with old | new
    · exact tracked.positive size old
    · rw [List.mem_singleton.mp new]
      exact newFrames_length_pos media bucket ids sampled
  · intro single
    have first : pipeline.batches = [] := by
      simpa using single
    have nothing : framesOf jobId pipeline.rows = [] := by
      apply List.eq_nil_of_length_eq_zero
      rw [tracked.count, first]
      rfl
    rw [framesOf_storeFrames, nothing, List.nil_append]
    exact newFrames_indices bucket ids (tracked.prepared run media sampled ready)
  · simp
  · intro other media sampled there
    have there := (runs_enter pipeline run other _).symm.trans there
    split at there
    · cases there
    · exact tracked.prepared other media sampled there

theorem Accounted.storeResults {run : RunId} (tracked : Accounted jobId pipeline) (frameIds : List FrameId)
    (analysis : Analysis) {ids : DrawnIds} (fresh : freshFrom ids.row pipeline.rows = true) (now : Instant)
    (bucket : Option String) :
    Accounted jobId { pipeline.enter run none with
      rows := storeResults jobId bucket frameIds analysis ids now pipeline.rows } := by
  obtain ⟨job, found, last⟩ := tracked.job
  have entered : Accounted jobId (pipeline.enter run none) := tracked.enter (by simp) (by simp)
  refine ⟨⟨job.handedOver analysis now, ?_, last⟩, tracked.count, tracked.positive, tracked.indices, entered.framed,
    entered.prepared, pendingOnce_storeResults fresh tracked.items now⟩
  rw [findJob_storeResults, found, Option.map_some]

theorem Accounted.step (tracked : Accounted jobId pipeline) (action : RunAction) :
    Accounted jobId (pipeline.step jobId bucket action) := by
  cases action with
  | findJob run =>
      simp only [Pipeline.step]
      split
      · split
        · split
          · exact tracked.enter (by simp [RunPhase.framed]) (by simp)
          · exact tracked
        · exact tracked
      · exact tracked
  | claim run now =>
      simp only [Pipeline.step]
      split
      · exact tracked.claim now _
      · exact tracked
  | prepare run raw keep =>
      simp only [Pipeline.step]
      split
      · rename_i media claimed
        refine tracked.enter (by simp [RunPhase.framed]) ?_
        intro other sampled same
        cases same
        exact (sample_indices media raw).sublist ((dedupe_sublist keep _).map _)
      · exact tracked
  | storeFrames run ids =>
      simp only [Pipeline.step]
      split
      · rename_i media sampled ready
        split
        · exact tracked.storeFrames ready bucket ids
        · exact tracked
      · exact tracked
  | analyze run analysis =>
      simp only [Pipeline.step]
      split
      · rename_i frameIds ready
        refine tracked.enter (fun _ _ _ => tracked.framed run _ ready rfl) (by simp)
      · exact tracked
  | storeResults run ids now =>
      simp only [Pipeline.step]
      split
      · rename_i frameIds analysis ready
        split
        · exact tracked.storeResults frameIds analysis ‹_› now bucket
        · exact tracked
      · exact tracked
  | stop run => exact tracked.enter (by simp) (by simp)

/-- Other steps leave the rows alone or the job in another status. -/
theorem reviewable_of_status {rows : ExtractionRows} {job : ExtractionJob} (found : findJob jobId rows = some job)
    (status : job.status ≠ .awaitingReview) : Reviewable jobId rows := by
  intro other there waiting
  obtain rfl := Option.some.inj (found.symm.trans there)
  exact (status waiting).elim

theorem reviewable_storeResults_iff {frameIds : List FrameId} {analysis : Analysis} {ids : DrawnIds}
    (tracked : Accounted jobId pipeline) (stored : pipeline.batches ≠ [])
    (fresh : freshFrom ids.row pipeline.rows = true) (now : Instant) :
    Reviewable jobId (storeResults jobId bucket frameIds analysis ids now pipeline.rows) ↔
      pipeline.batches.length = 1 ∧ resultsOf jobId pipeline.rows = [] := by
  obtain ⟨job, found, last⟩ := tracked.job
  obtain ⟨before, size, split⟩ : ∃ before size, pipeline.batches = before ++ [size] :=
    ⟨_, _, (List.dropLast_append_getLast stored).symm⟩
  have extracted : job.framesExtracted = size := last size (by simp [split])
  have count : (framesOf jobId pipeline.rows).length = before.sum + size := by
    rw [tracked.count, split]
    simp
  have results : resultsOf jobId (storeResults jobId bucket frameIds analysis ids now pipeline.rows) =
      resultsOf jobId pipeline.rows ++ newResults jobId bucket frameIds analysis ids :=
    resultsOf_storeResults bucket frameIds analysis ids now
  have added : (newResults jobId bucket frameIds analysis ids).length = analysis.products.length := by simp [newResults]
  have updated : findJob jobId (storeResults jobId bucket frameIds analysis ids now pipeline.rows) =
      some (job.handedOver analysis now) := by
    rw [findJob_storeResults, found, Option.map_some]
  constructor
  · intro reviewable
    have counts := reviewable _ updated rfl
    constructor
    · -- every batch has a frame in it, so the last one can be all frames only alone
      have frames : before.sum + size = size := count.symm.trans (counts.frames.trans extracted)
      have empty : before = [] := by
        cases before with
        | nil => rfl
        | cons first rest =>
            have positive := tracked.positive first (by simp [split])
            simp only [List.sum_cons] at frames
            omega
      simp [split, empty]
    · have found : (resultsOf jobId pipeline.rows).length + analysis.products.length = analysis.products.length := by
        rw [← added, ← List.length_append, ← results]
        exact counts.results.trans added.symm
      exact List.eq_nil_of_length_eq_zero (by omega)
  · rintro ⟨single, none⟩ other there _
    obtain rfl := Option.some.inj (updated.symm.trans there)
    have first : before = [] := by simpa [split] using single
    refine ⟨?_, tracked.indices (Nat.le_of_eq single), ?_, pendingOnce_storeResults fresh tracked.items now⟩
    · rw [first] at count
      exact count.trans ((Nat.zero_add size).trans extracted.symm)
    · rw [results, none, List.nil_append, added]
      rfl

theorem reviewable_step_iff (action : RunAction) (tracked : Accounted jobId pipeline)
    (reviewable : Reviewable jobId pipeline.rows) :
    Reviewable jobId (pipeline.step jobId bucket action).rows ↔ HandsOverAlone jobId pipeline action := by
  obtain ⟨job, found, _⟩ := tracked.job
  cases action with
  | storeResults run ids now =>
      simp only [Pipeline.step, HandsOverAlone]
      split
      · rename_i frameIds analysis ready
        split
        · rename_i fresh
          have stored := tracked.framed run _ ready rfl
          rw [reviewable_storeResults_iff tracked stored fresh]
          simp [ready, fresh]
        · rename_i stale
          exact iff_of_true reviewable fun _ fresh => (stale fresh).elim
      · rename_i other
        refine iff_of_true reviewable ?_
        intro given
        obtain ⟨frameIds, analysis, ready⟩ := given
        exact (other frameIds analysis ready).elim
  | storeFrames run ids =>
      refine iff_of_true ?_ trivial
      simp only [Pipeline.step]
      split
      · rename_i media sampled ready
        split
        · have updated : findJob jobId (storeFrames jobId media bucket ids sampled pipeline.rows) =
              some (job.analyzing (newFrames jobId media bucket ids sampled).length) := by
            rw [findJob_storeFrames, found, Option.map_some]
          exact reviewable_of_status updated (by simp [ExtractionJob.analyzing])
        · exact reviewable
      · exact reviewable
  | claim run now =>
      refine iff_of_true ?_ trivial
      simp only [Pipeline.step]
      split
      · have updated : findJob jobId (updateJob jobId (ExtractionJob.ingesting now) pipeline.rows) =
            some (job.ingesting now) := by
          rw [findJob_claim, found, Option.map_some]
        exact reviewable_of_status updated (by simp [ExtractionJob.ingesting])
      · exact reviewable
  | findJob run =>
      refine iff_of_true ?_ trivial
      simp only [Pipeline.step]
      split
      · split
        · split <;> exact reviewable
        · exact reviewable
      · exact reviewable
  | prepare run raw keep =>
      refine iff_of_true ?_ trivial
      simp only [Pipeline.step]
      split <;> exact reviewable
  | analyze run analysis =>
      refine iff_of_true ?_ trivial
      simp only [Pipeline.step]
      split <;> exact reviewable
  | stop run => exact iff_of_true reviewable trivial

/-- A job as it is queued: it is there, with no frame and no result. -/
structure Queued (jobId : JobId) (rows : ExtractionRows) : Prop where
  job : ∃ job, findJob jobId rows = some job ∧ job.status = .queued
  frames : framesOf jobId rows = []
  results : resultsOf jobId rows = []

/-- Whenever a job awaits review, its counts are right, in every state of a run of
the pipeline, exactly when each run that hands it over does so alone. -/
theorem reviewable_iff_hands_over_alone {jobId : JobId} {bucket : Option String} {rows : ExtractionRows}
    (queued : Queued jobId rows) {actions : List RunAction} :
    Visits (Pipeline.step jobId bucket) (fun pipeline => Reviewable jobId pipeline.rows) (Pipeline.start rows) actions ↔
      Along (Pipeline.step jobId bucket) (HandsOverAlone jobId) (Pipeline.start rows) actions := by
  obtain ⟨⟨job, found, status⟩, frames, results⟩ := queued
  have nothing : Accounted jobId (Pipeline.start rows) := by
    refine ⟨⟨job, found, by simp [Pipeline.start]⟩, ?_, ?_, ?_, ?_, ?_, ?_⟩ <;>
      simp [Pipeline.start, frames, results]
  have unseen : Reviewable jobId (Pipeline.start rows).rows := reviewable_of_status found (by simp [status])
  have framed : ∀ pipeline action, True → Accounted jobId pipeline →
      Accounted jobId (pipeline.step jobId bucket action) := fun _ action _ tracked => tracked.step action
  exact visits_iff_along framed (fun _ action _ tracked reviewable => reviewable_step_iff action tracked reviewable)
    (fun _ _ => trivial) nothing unseen

def queuedJob : ExtractionJob where
  id := 1
  sourceMediaId := none
  status := .queued
  framesExtracted := 0
  framesAnalyzed := 0
  productsFound := 0
  errorMessage := none
  startedAt := none
  completedAt := none

def queuedRows : ExtractionRows where
  jobs := [queuedJob]
  frames := []
  results := []
  reviewItems := []
  mediaAssets := []

theorem queuedRows_queued : Queued 1 queuedRows :=
  ⟨⟨queuedJob, rfl, rfl⟩, rfl, rfl⟩

def oneCola : Analysis where
  products := [{
    title := "Cola Classic 330ml", priceCents := some 149, brandGuess := none, categoryGuess := none
    overallConfidence := 1, fieldConfidence := .object [], barcode := none, imageUrl := none }]
  note := none
  imageKeys := []

def storesFrames (run : RunId) (first : Nat) : List RunAction :=
  [.findJob run, .claim run 1, .prepare run [] none, .storeFrames run ⟨first, 1⟩]

def handsOver (run : RunId) : List RunAction :=
  [.analyze run oneCola, .storeResults run ⟨100, 1⟩ 2]

/-- The first attempt dies after its frames are stored, and the second one succeeds. -/
theorem frames_stored_twice :
    ¬ ∀ jobId bucket rows actions, Queued jobId rows →
      Visits (Pipeline.step jobId bucket) (fun pipeline => Reviewable jobId pipeline.rows) (Pipeline.start rows)
        actions := by
  intro always
  have visits := always 1 none queuedRows (storesFrames 1 1 ++ [.stop 1] ++ storesFrames 2 10 ++ handsOver 2)
    queuedRows_queued
  have counts := visits.last _ rfl rfl
  exact absurd counts.frames (by decide)

theorem reviewable_first_attempt :
    Visits (Pipeline.step 1 none) (fun pipeline => Reviewable 1 pipeline.rows) (Pipeline.start queuedRows)
        (storesFrames 1 1 ++ handsOver 1) ↔
      Along (Pipeline.step 1 none) (HandsOverAlone 1) (Pipeline.start queuedRows) (storesFrames 1 1 ++ handsOver 1) :=
  reviewable_iff_hands_over_alone queuedRows_queued

end Aicos.Properties
