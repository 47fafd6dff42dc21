import Aicos.Extraction.Processor
import Mathlib.Logic.Function.Basic

namespace Aicos.Extraction

open Aicos.Commerce Aicos.Data

/-! Any number of runs of the processor on one job, each stopping wherever it
likes: retries after an error or a crash, and a stalled run next to its repetition. -/

abbrev RunId := Nat

/-- What a run has done last. -/
inductive RunPhase where
  /-- Read the job, and not updated it yet. -/
  | found (job : ExtractionJob)
  | claimed (media : Option SourceMedia)
  | prepared (media : Option SourceMedia) (sampled : List SampledFrame)
  | framed (frameIds : List FrameId)
  | analyzed (frameIds : List FrameId) (analysis : Analysis)

/-- `batches` records how many frames each second transaction so far has stored. -/
structure Pipeline where
  rows : ExtractionRows
  runs : RunId → Option RunPhase
  batches : List Nat

inductive RunAction where
  | findJob (run : RunId)
  | claim (run : RunId) (now : Instant)
  | prepare (run : RunId) (raw : List RawFrame) (keep : Option (List Nat))
  | storeFrames (run : RunId) (ids : DrawnIds)
  | analyze (run : RunId) (analysis : Analysis)
  | storeResults (run : RunId) (ids : DrawnIds) (now : Instant)
  | stop (run : RunId)

def Pipeline.enter (pipeline : Pipeline) (run : RunId) (phase : Option RunPhase) : Pipeline :=
  { pipeline with runs := Function.update pipeline.runs run phase }

/-- No row has one of the ids from `first` on. -/
def freshFrom (first : Nat) (rows : ExtractionRows) : Bool :=
  (rows.frames.all fun frame => frame.id < first) ∧ (rows.results.all fun result => result.id < first) ∧
    rows.reviewItems.all fun item => item.resultId < first

def Pipeline.step (jobId : JobId) (bucket : Option String) (pipeline : Pipeline) : RunAction → Pipeline
  | .findJob run =>
      match pipeline.runs run with
      | none =>
          match findJob jobId pipeline.rows with
          | some job => if job.unprocessed then pipeline.enter run (some (.found job)) else pipeline
          | none => pipeline
      | some _ => pipeline
  | .claim run now =>
      match pipeline.runs run with
      | some (.found job) =>
          { pipeline.enter run (some (.claimed (sourceMedia job pipeline.rows))) with
            rows := updateJob jobId (ExtractionJob.ingesting now) pipeline.rows }
      | _ => pipeline
  | .prepare run raw keep =>
      match pipeline.runs run with
      | some (.claimed media) => pipeline.enter run (some (.prepared media (dedupe keep (sample media raw))))
      | _ => pipeline
  | .storeFrames run ids =>
      match pipeline.runs run with
      | some (.prepared media sampled) =>
          if freshFrom ids.row pipeline.rows then
            let frames := newFrames jobId media bucket ids sampled
            { pipeline.enter run (some (.framed (frames.map (·.id)))) with
              rows := storeFrames jobId media bucket ids sampled pipeline.rows
              batches := pipeline.batches ++ [frames.length] }
          else pipeline
      | _ => pipeline
  | .analyze run analysis =>
      match pipeline.runs run with
      | some (.framed frameIds) => pipeline.enter run (some (.analyzed frameIds analysis))
      | _ => pipeline
  | .storeResults run ids now =>
      match pipeline.runs run with
      | some (.analyzed frameIds analysis) =>
          if freshFrom ids.row pipeline.rows then
            { pipeline.enter run none with
              rows := storeResults jobId bucket frameIds analysis ids now pipeline.rows }
          else pipeline
      | _ => pipeline
  | .stop run => pipeline.enter run none

def Pipeline.start (rows : ExtractionRows) : Pipeline :=
  { rows, runs := fun _ => none, batches := [] }

def framesOf (jobId : JobId) (rows : ExtractionRows) : List ExtractionFrame :=
  rows.frames.filter fun frame => frame.jobId = jobId

def resultsOf (jobId : JobId) (rows : ExtractionRows) : List ExtractionResult :=
  rows.results.filter fun result => result.jobId = jobId

section Frames

variable {jobId : JobId} {rows : ExtractionRows}

theorem sample_indices (media : Option SourceMedia) (raw : List RawFrame) :
    ((sample media raw).map (·.frameIndex)).Nodup := by
  cases media with
  | none => exact List.nodup_nil
  | some media =>
      have numbered : (sample (some media) raw).map (·.frameIndex) = List.range raw.length := by
        apply List.ext_getElem <;> simp [sample]
      rw [numbered]
      exact List.nodup_range

theorem dedupe_sublist (keep : Option (List Nat)) (frames : List SampledFrame) :
    (dedupe keep frames).Sublist frames := by
  cases keep with
  | none => exact List.Sublist.refl _
  | some keep =>
      simp only [dedupe]
      split
      · have kept := (List.filter_sublist (p := fun pair : SampledFrame × Nat => decide (pair.2 ∈ keep))
          (l := frames.zipIdx)).map (·.1)
        simpa using kept
      · exact List.Sublist.refl _

theorem newFrames_length_pos (media : Option SourceMedia) (bucket : Option String) (ids : DrawnIds)
    (sampled : List SampledFrame) : 0 < (newFrames jobId media bucket ids sampled).length := by
  unfold newFrames
  split
  · simpa using ‹sampled.length > 0›
  · simp [frameCount]

theorem newFrames_indices {media : Option SourceMedia} {sampled : List SampledFrame} (bucket : Option String)
    (ids : DrawnIds) (distinct : (sampled.map (·.frameIndex)).Nodup) :
    ((newFrames jobId media bucket ids sampled).map (·.frameIndex)).Nodup := by
  unfold newFrames
  split
  · have same : (sampled.mapIdx (frameRow jobId media bucket ids)).map (·.frameIndex) = sampled.map (·.frameIndex) := by
      apply List.ext_getElem <;> simp [frameRow]
    rw [same]
    exact distinct
  · have same : ((List.range frameCount).map (placeholderFrame jobId ids)).map (·.frameIndex) = List.range frameCount := by
      simp [Function.comp_def, placeholderFrame]
    rw [same]
    exact List.nodup_range

theorem newFrames_jobId {media : Option SourceMedia} {bucket : Option String} {ids : DrawnIds}
    {sampled : List SampledFrame} : ∀ frame ∈ newFrames jobId media bucket ids sampled, frame.jobId = jobId := by
  intro frame member
  unfold newFrames at member
  split at member
  · obtain ⟨index, bound, rfl⟩ := List.mem_mapIdx.mp member
    rfl
  · obtain ⟨index, _, rfl⟩ := List.mem_map.mp member
    rfl

theorem framesOf_storeFrames (media : Option SourceMedia) (bucket : Option String) (ids : DrawnIds)
    (sampled : List SampledFrame) :
    framesOf jobId (storeFrames jobId media bucket ids sampled rows) =
      framesOf jobId rows ++ newFrames jobId media bucket ids sampled := by
  have mine : (newFrames jobId media bucket ids sampled).filter (fun frame => frame.jobId = jobId) =
      newFrames jobId media bucket ids sampled :=
    List.filter_eq_self.mpr fun frame member => by simpa using newFrames_jobId frame member
  simp only [framesOf, storeFrames, updateJob, List.filter_append, mine]

theorem resultsOf_storeResults (bucket : Option String) (frameIds : List FrameId) (analysis : Analysis)
    (ids : DrawnIds) (now : Instant) :
    resultsOf jobId (storeResults jobId bucket frameIds analysis ids now rows) =
      resultsOf jobId rows ++ newResults jobId bucket frameIds analysis ids := by
  have mine : (newResults jobId bucket frameIds analysis ids).filter (fun result => result.jobId = jobId) =
      newResults jobId bucket frameIds analysis ids := by
    refine List.filter_eq_self.mpr fun result member => ?_
    obtain ⟨index, bound, rfl⟩ := List.mem_mapIdx.mp member
    simp [resultRow]
  simp only [resultsOf, storeResults, updateJob, List.filter_append, mine]

theorem findJob_updateJob {change : ExtractionJob → ExtractionJob} (keyed : ∀ job, (change job).id = job.id) :
    findJob jobId (updateJob jobId change rows) = (findJob jobId rows).map change := by
  have updated : findJob jobId (updateJob jobId change rows) =
      (findJob jobId rows).map fun job => if job.id = jobId then change job else job := by
    rw [updateJob, findJob, find?_updateWhere_key keyed]
    simp only [findJob, decide_eq_true_eq]
  rw [updated]
  apply Option.map_congr
  intro job found
  have mine : job.id = jobId := by simpa using List.find?_some found
  rw [if_pos mine]

theorem findJob_claim (now : Instant) :
    findJob jobId (updateJob jobId (ExtractionJob.ingesting now) rows) =
      (findJob jobId rows).map (ExtractionJob.ingesting now) :=
  findJob_updateJob fun _ => rfl

theorem findJob_storeFrames (media : Option SourceMedia) (bucket : Option String) (ids : DrawnIds)
    (sampled : List SampledFrame) :
    findJob jobId (storeFrames jobId media bucket ids sampled rows) =
      (findJob jobId rows).map (ExtractionJob.analyzing (newFrames jobId media bucket ids sampled).length) :=
  findJob_updateJob fun _ => rfl

theorem findJob_storeResults (bucket : Option String) (frameIds : List FrameId) (analysis : Analysis)
    (ids : DrawnIds) (now : Instant) :
    findJob jobId (storeResults jobId bucket frameIds analysis ids now rows) =
      (findJob jobId rows).map (ExtractionJob.handedOver analysis now) :=
  findJob_updateJob fun _ => rfl

end Frames

end Aicos.Extraction
