import Aicos.Extraction.FrameFiles

namespace Aicos.Properties

open Aicos.Data Aicos.Extraction.FrameSampler
open Aicos.Extraction (SourceMedia)

/-! What the sampler returns is made of frames of the source, each with its own picture,
time and score: the three files stay aligned through both filters. -/

section Source

variable (base64 : Buffer → String) (fps : Double) (jpegs : List Buffer) (blurs : Option Buffer)

/-- The score of the chunk of a frame, where the strip has the whole chunk. -/
def sourceScore (index : Nat) : Option Double :=
  blurs.bind fun raw =>
    if (index + 1) * 4096 ≤ raw.length then some (laplacianVariance ((raw.drop (index * 4096)).take 4096) 64 64)
    else none

/-- Frame `index` of the source as the frame at place `frameIndex` of the sample. -/
def sourceFrame (frameIndex index : Nat) : SampledFrame where
  frameIndex := frameIndex
  timestampMs := some ((Double.ofInt (index * 1000)).div fps).round
  blurScore := sourceScore blurs index
  image := { base64 := base64 (jpegs[index]?.getD []), mimeType := "image/jpeg" }

def Earlier (first second : SampledFrame) : Prop :=
  ∃ early late, first.timestampMs = some early ∧ second.timestampMs = some late ∧ early < late

/-- A sample is the frames of some indices of the source, in order. -/
structure SampledFrom (indices : List Nat) (sampled : List SampledFrame) : Prop where
  some : indices ≠ []
  subsequence : indices.Sublist (List.range jpegs.length)
  aligned : sampled = indices.mapIdx (sourceFrame base64 fps jpegs blurs)
  increasing : sampled.Pairwise Earlier

end Source

/-- The video is downloaded, and ffmpeg leaves its files at the rate worked out for it. -/
structure Runs (host : Host) (media : SourceMedia) (maxFrames : Int) (fps : Double) (dir : Directory) : Prop where
  store : host.storeReady = true
  ffmpeg : host.ffmpegReady = true
  video : isVideo media = true
  files : ∃ bytes, host.download media.bucket media.objectKey = some bytes ∧
    computeFps (host.probeDuration bytes) maxFrames = fps ∧ host.runFfmpeg bytes fps (max 1 maxFrames) = some dir

variable {base64 : Buffer → String} {fps : Double} {jpegs : List Buffer} {input : Buffer}
  {hashes blurs : Option Buffer} {dir : Directory}

/-- A work frame, made from its index alone. -/
def workFrame (fps : Double) (jpegs : List Buffer) (hashes : List Nat) (blurs : List Double) (i : Nat) :
    WorkFrame where
  timestampMs := timestampMs fps i
  jpeg := jpegs[i]?.getD []
  hash := hashes[i]?
  blurScore := blurs[i]?

theorem workFrames_eq_map (fps : Double) (jpegs : List Buffer) (hashes : List Nat) (blurs : List Double) :
    workFrames fps jpegs hashes blurs = (List.range jpegs.length).map (workFrame fps jpegs hashes blurs) := by
  refine List.ext_getElem (by simp [workFrames]) fun i _ bound => ?_
  have inside : i < jpegs.length := by simpa using bound
  simp [workFrames, workFrame, inside]

/-- The survivors of both filters are the work frames of some indices. -/
theorem survivors_eq_map (frame : Nat → WorkFrame) {count : Nat} (positive : 0 < count) :
    ∃ indices : List Nat, indices ≠ [] ∧ indices.Sublist (List.range count) ∧
      dropDuplicates (pruneBlurred ((List.range count).map frame)) = indices.map frame := by
  have some : (List.range count).map frame ≠ [] := by
    rw [Ne, List.map_eq_nil_iff, List.range_eq_nil]
    omega
  have sublist := (dropDuplicates_sublist _).trans (pruneBlurred_sublist ((List.range count).map frame))
  obtain ⟨indices, subsequence, survivors⟩ := List.sublist_map_iff.mp sublist
  have nonempty := dropDuplicates_ne_nil (pruneBlurred_ne_nil some)
  rw [survivors, Ne, List.map_eq_nil_iff] at nonempty
  exact ⟨indices, nonempty, subsequence, survivors⟩

theorem sourceScore_eq (blurs : Option Buffer) (index : Nat) : (readBlurs blurs)[index]? = sourceScore blurs index :=
  getElem?_readChunks blurs _ (by decide) index

theorem numberFrames_map (base64 : Buffer → String) (indices : List Nat) :
    numberFrames base64 ((indices.map (workFrame fps jpegs (readHashes hashes) (readBlurs blurs))).map
      WorkFrame.videoFrame) = indices.mapIdx (sourceFrame base64 fps jpegs blurs) := by
  refine List.ext_getElem (by simp [numberFrames]) fun place _ _ => ?_
  simp only [numberFrames, List.getElem_mapIdx, List.getElem_map, WorkFrame.videoFrame, workFrame, sourceScore_eq]
  rfl

/-- A frame of a later index comes later. -/
theorem earlier_of_lt (slow : minFps ≤ fps) (fast : fps ≤ maxFps) {low high : Nat} (lt : low < high)
    (small : high < 1000) (first second : Nat) :
    Earlier (sourceFrame base64 fps jpegs blurs first low) (sourceFrame base64 fps jpegs blurs second high) :=
  ⟨_, _, rfl, rfl, timestampMs_lt slow fast lt small⟩

theorem pairwise_mapIdx {α β : Type} {before : α → α → Prop} {rel : β → β → Prop} {place : Nat → α → β}
    {items : List α} (ordered : items.Pairwise before)
    (keeps : ∀ first ∈ items, ∀ second ∈ items, before first second → ∀ i j, rel (place i first) (place j second)) :
    (items.mapIdx place).Pairwise rel := by
  rw [List.pairwise_iff_getElem] at ordered ⊢
  intro i j iInside jInside lt
  rw [List.length_mapIdx] at iInside jInside
  rw [List.getElem_mapIdx, List.getElem_mapIdx]
  exact keeps _ (List.getElem_mem iInside) _ (List.getElem_mem jInside) (ordered i j iInside jInside lt) i j

theorem sample_of_runs {host : Host} {media : SourceMedia} {maxFrames : Int} {frames : List VideoFrame}
    (runs : Runs host media maxFrames fps dir) (selected : selectFrames fps dir = some frames) :
    sample host media maxFrames = numberFrames host.base64 frames := by
  obtain ⟨bytes, downloaded, rate, ran⟩ := runs.files
  simp [sample, runs.store, runs.ffmpeg, runs.video, downloaded, extractVideoFrames, rate, ran, selected]

/-- Whatever the strips hold and whatever the filters drop, the frames of a video keep what is theirs. -/
theorem sample_sampledFrom (host : Host) (slow : minFps ≤ fps) (fast : fps ≤ maxFps) (nonempty : 1 ≤ jpegs.length)
    (few : jpegs.length ≤ 999) (listing : dir.Perm (written input jpegs hashes blurs)) :
    ∃ frames indices, selectFrames fps dir = some frames ∧
      SampledFrom host.base64 fps jpegs blurs indices (numberFrames host.base64 frames) ∧
      ∀ media maxFrames, Runs host media maxFrames fps dir →
        sample host media maxFrames = numberFrames host.base64 frames := by
  obtain ⟨indices, kept, subsequence, survivors⟩ :=
    survivors_eq_map (workFrame fps jpegs (readHashes hashes) (readBlurs blurs)) nonempty
  have selected := selectFrames_written few listing fps
  rw [workFrames_eq_map, survivors] at selected
  refine ⟨_, indices, selected, ⟨kept, subsequence, numberFrames_map host.base64 indices, ?_⟩,
    fun media maxFrames runs => sample_of_runs runs selected⟩
  rw [numberFrames_map]
  have ascending : indices.Pairwise (· < ·) := List.pairwise_lt_range.sublist subsequence
  refine pairwise_mapIdx ascending fun low _ high member lt first second => ?_
  have inside := List.mem_range.mp (subsequence.subset member)
  exact earlier_of_lt slow fast lt (by omega) first second

/-- Two frames, with a hash strip that ends within its second chunk and no blur strip. -/
def clipFiles : Directory :=
  written [] [[255, 216], [255, 216]] (some (List.replicate 100 7)) none

def clipHost : Host where
  storeReady := true
  download := fun _ _ => some []
  ffmpegReady := true
  probeDuration := fun _ => none
  runFfmpeg := fun _ _ _ => some clipFiles
  base64 := fun _ => "/9g="

def clipMedia : SourceMedia where
  id := 1
  bucket := "aicos"
  objectKey := "clip.mp4"
  mimeType := some "video/mp4"
  type := .video

theorem sampledFrom_of_clip : ∃ indices,
    SampledFrom clipHost.base64 defaultFps [[255, 216], [255, 216]] none indices (sample clipHost clipMedia 2) := by
  obtain ⟨frames, indices, -, sampled, followed⟩ := sample_sampledFrom clipHost (computeFps_mem none 2).1
    (computeFps_mem none 2).2 (by decide) (by decide) (List.Perm.refl clipFiles)
  have runs : Runs clipHost clipMedia 2 (computeFps none 2) clipFiles := ⟨rfl, rfl, rfl, [], rfl, rfl, rfl⟩
  rw [followed clipMedia 2 runs]
  exact ⟨indices, sampled⟩

end Aicos.Properties
