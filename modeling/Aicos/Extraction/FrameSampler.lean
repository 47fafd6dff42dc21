import Aicos.Data.Greedy
import Aicos.Data.Number
import Aicos.Data.Sorting
import Aicos.Extraction.Processor
import Mathlib.Data.String.Basic
import Mathlib.Tactic.Ring

namespace Aicos.Extraction.FrameSampler

open Aicos.Data

/-! `FrameSamplerService` and the functions of its file.  A buffer is its bytes; hashes are
natural numbers, scores and rates are doubles. -/

abbrev Buffer := List UInt8

def defaultFps : Double := 1
def minFps : Double := Double.ofRat (1 / 20)
def maxFps : Double := Double.ofInt 30
def hashW : Nat := 9
def hashH : Nat := 8
def dedupHamming : Nat := 6
def blurW : Nat := 64
def blurH : Nat := 64
def blurRel : Double := Double.ofRat (1 / 2)
def minKeep : Int := 2

theorem blurRel_mem : 0 ≤ blurRel ∧ blurRel ≤ 1 :=
  ⟨Double.ofRat_mono (by norm_num), Double.ofRat_mono (by norm_num)⟩

section Hashes

/-- `gray[index] ?? 0`. -/
def pixel (gray : Buffer) (index : Nat) : Nat :=
  (gray[index]?.map UInt8.toNat).getD 0

def dHash (gray : Buffer) : Nat :=
  let cells := (List.range hashH).flatMap fun row => (List.range hashH).map fun col => (row, col)
  (cells.foldl
    (fun (state : Nat × Nat) cell =>
      let left := pixel gray (cell.1 * hashW + cell.2)
      let right := pixel gray (cell.1 * hashW + cell.2 + 1)
      (if right < left then state.1 ||| 1 <<< state.2 else state.1, state.2 + 1))
    (0, 0)).1

/-- The loop of `hamming`: the low bit is counted and shifted out. -/
def countBits (bits : Nat) : Nat :=
  if 0 < bits then bits % 2 + countBits (bits / 2) else 0
termination_by bits
decreasing_by omega

def hamming (left right : Nat) : Nat :=
  countBits (left ^^^ right)

/-- `hamming(k.hash, f.hash) >= threshold`. -/
def differ {α : Type} (hash : α → Nat) (threshold : Number) (other frame : α) : Bool :=
  threshold.le (Number.ofInt (hamming (hash other) (hash frame)))

def dedupeByHash {α : Type} (hash : α → Nat) (threshold : Number) (frames : List α) : List α :=
  frames.foldl
    (fun kept frame => if kept.all fun other => differ hash threshold other frame then kept ++ [frame] else kept) []

theorem dedupeByHash_eq_greedy {α : Type} (hash : α → Nat) (threshold : Number) (frames : List α) :
    dedupeByHash hash threshold frames = greedy (differ hash threshold) frames := rfl

theorem dedupeByHash_sublist {α : Type} (hash : α → Nat) (threshold : Number) (frames : List α) :
    (dedupeByHash hash threshold frames).Sublist frames :=
  greedy_sublist _ frames

/-- The first frame has nothing to be near to. -/
theorem dedupeByHash_ne_nil {α : Type} {hash : α → Nat} {threshold : Number} {frames : List α} (some : frames ≠ []) :
    dedupeByHash hash threshold frames ≠ [] :=
  greedy_ne_nil _ some

end Hashes

section Sharpness

def laplacian (gray : Buffer) (w x y : Nat) : Int :=
  let i := y * w + x
  4 * pixel gray i - pixel gray (i - 1) - pixel gray (i + 1) - pixel gray (i - w) - pixel gray (i + w)

/-- Every sum and quotient is rounded to a double. -/
def laplacianVariance (gray : Buffer) (w h : Nat) : Double :=
  let inner (size : Nat) := (List.range (size - 2)).map (· + 1)
  let laps := (inner h).flatMap fun y => (inner w).map fun x => laplacian gray w x y
  let sum := laps.foldl (fun sum lap => sum.add (Double.ofInt lap)) (0 : Double)
  let sumSq := laps.foldl (fun sumSq lap => sumSq.add (Double.ofInt (lap * lap))) (0 : Double)
  let n := Double.ofInt laps.length
  if laps.length = 0 then 0
  else
    let mean := sum.div n
    (sumSq.div n).sub (mean.mul mean)

/-- `blurScores[i] ?? 0`. -/
def scoreAt (blurScores : List Double) (i : Nat) : Double :=
  blurScores[i]?.getD 0

def median (blurScores : List Double) : Double :=
  let sorted := sortWith Double.sub blurScores
  sorted[sorted.length / 2]?.getD 0

def sharpestFirst (blurScores : List Double) : List Nat :=
  sortWith (fun a b => (scoreAt blurScores b).sub (scoreAt blurScores a)) (List.range blurScores.length)

def temporalOrder (indices : List Nat) : List Nat :=
  sortWith (fun a b => (a - b : Int)) indices

def sharpFrameIndices (blurScores : List Double) (relThreshold : Double) (minKeep : Int) : List Nat :=
  let all := List.range blurScores.length
  if blurScores.length ≤ minKeep then all
  else
    let floor := (median blurScores).mul relThreshold
    let sharp := all.filter fun i => floor ≤ scoreAt blurScores i
    if minKeep ≤ sharp.length then sharp
    else temporalOrder (sliceTo minKeep (sharpestFirst blurScores))

theorem sharpestFirst_perm (blurScores : List Double) :
    (sharpestFirst blurScores).Perm (List.range blurScores.length) :=
  sortWith_perm _ _

theorem sharpestFirst_sorted (blurScores : List Double) :
    (sharpestFirst blurScores).Pairwise fun i j => scoreAt blurScores j ≤ scoreAt blurScores i :=
  sortWith_sorted (fun i => OrderDual.toDual (scoreAt blurScores i)) (fun _ _ => Double.sub_nonpos_iff) _

theorem temporalOrder_perm (indices : List Nat) : (temporalOrder indices).Perm indices :=
  sortWith_perm _ _

theorem temporalOrder_sorted (indices : List Nat) : (temporalOrder indices).Pairwise (· ≤ ·) :=
  sortWith_sorted id (fun left right => by rw [id, id]; omega) indices

theorem lt_of_mem_sharpest {blurScores : List Double} {count : Int} {i : Nat}
    (member : i ∈ temporalOrder (sliceTo count (sharpestFirst blurScores))) : i < blurScores.length := by
  have sliced := (sliceTo_sublist _ _).subset ((temporalOrder_perm _).mem_iff.mp member)
  exact List.mem_range.mp ((sharpestFirst_perm blurScores).mem_iff.mp sliced)

/-- At least half of the scores, and the middle one with them, reach the upper median. -/
theorem half_le_countP_median (blurScores : List Double) :
    (blurScores.length + 1) / 2 ≤ blurScores.countP (median blurScores ≤ ·) := by
  have sorted : (sortWith Double.sub blurScores).Pairwise (· ≤ ·) :=
    sortWith_sorted id (fun _ _ => Double.sub_nonpos_iff) blurScores
  have length := (sortWith_perm Double.sub blurScores).length_eq
  rcases Nat.eq_zero_or_pos blurScores.length with none | some
  · rw [none]
    exact Nat.zero_le _
  · have inside : (sortWith Double.sub blurScores).length / 2 < (sortWith Double.sub blurScores).length := by omega
    have reached := length_sub_le_countP_of_sorted sorted inside
    have middle : median blurScores =
        (sortWith Double.sub blurScores)[(sortWith Double.sub blurScores).length / 2] := by
      rw [median, List.getElem?_eq_getElem inside, Option.getD_some]
    rw [← middle, (sortWith_perm Double.sub blurScores).countP_eq, length] at reached
    omega

theorem median_nonneg {blurScores : List Double} (nonneg : ∀ score ∈ blurScores, 0 ≤ score) :
    0 ≤ median blurScores := by
  rw [median]
  cases found : (sortWith Double.sub blurScores)[(sortWith Double.sub blurScores).length / 2]? with
  | none => exact le_refl _
  | some score => exact nonneg score ((sortWith_perm _ _).mem_iff.mp (List.mem_of_getElem? found))

/-- Counting the positions of the scores that pass is counting the scores. -/
theorem length_filter_scoreAt (passes : Double → Bool) (blurScores : List Double) :
    ((List.range blurScores.length).filter fun i => passes (scoreAt blurScores i)).length =
      blurScores.countP passes := by
  have listed : (List.range blurScores.length).map (scoreAt blurScores) = blurScores := by
    refine List.ext_getElem (by simp) fun i _ bound => ?_
    rw [List.getElem_map, List.getElem_range, scoreAt, List.getElem?_eq_getElem bound, Option.getD_some]
  conv_rhs => rw [← listed, List.countP_map, List.countP_eq_length_filter]
  rfl

theorem lt_of_mem_sharpFrameIndices {blurScores : List Double} {relThreshold : Double} {minKeep : Int} {i : Nat}
    (member : i ∈ sharpFrameIndices blurScores relThreshold minKeep) : i < blurScores.length := by
  dsimp only [sharpFrameIndices] at member
  split at member
  · exact List.mem_range.mp member
  · split at member
    · exact List.mem_range.mp (List.mem_filter.mp member).1
    · exact lt_of_mem_sharpest member

/-- Whatever the scores, some frame is kept. -/
theorem sharpFrameIndices_ne_nil {blurScores : List Double} {relThreshold : Double} {minKeep : Int}
    (some : 0 < blurScores.length) (positive : 0 < minKeep) :
    sharpFrameIndices blurScores relThreshold minKeep ≠ [] := by
  dsimp only [sharpFrameIndices]
  split
  · rw [Ne, List.range_eq_nil]
    omega
  · split
    · rw [← List.length_pos_iff]
      omega
    · have size := (sharpestFirst_perm blurScores).length_eq
      rw [List.length_range] at size
      have sliced : ((sliceTo minKeep (sharpestFirst blurScores)).length : Int) = minKeep :=
        sliceTo_length positive.le (by omega)
      rw [← List.length_pos_iff, (temporalOrder_perm _).length_eq]
      omega

end Sharpness

section Video

/-- The temporary directory: its files in the order in which `readdir` lists them. -/
abbrev Directory := List (String × Buffer)

def Directory.readFile (dir : Directory) (name : String) : Option Buffer :=
  List.lookup name dir

/-- The chunks of a file from `start` on; a chunk is never empty. -/
def chunksFrom {α : Type} (raw : Buffer) (chunkBytes : Nat) (map : Buffer → α) (start : Nat) : List α :=
  if 0 < chunkBytes ∧ start + chunkBytes ≤ raw.length then
    map ((raw.drop start).take chunkBytes) :: chunksFrom raw chunkBytes map (start + chunkBytes)
  else []
termination_by raw.length - start
decreasing_by omega

theorem getElem?_chunksFrom {α : Type} (raw : Buffer) {chunkBytes : Nat} (map : Buffer → α)
    (positive : 0 < chunkBytes) (start i : Nat) :
    (chunksFrom raw chunkBytes map start)[i]? =
      if start + (i + 1) * chunkBytes ≤ raw.length then
        some (map ((raw.drop (start + i * chunkBytes)).take chunkBytes))
      else none := by
  induction i generalizing start with
  | zero =>
      rw [chunksFrom, Nat.zero_add, Nat.one_mul, Nat.zero_mul, Nat.add_zero]
      by_cases whole : start + chunkBytes ≤ raw.length
      · rw [if_pos ⟨positive, whole⟩, if_pos whole, List.getElem?_cons_zero]
      · rw [if_neg (fun both => whole both.2), if_neg whole, List.getElem?_nil]
  | succ i ih =>
      have next : start + (i + 1 + 1) * chunkBytes = start + chunkBytes + (i + 1) * chunkBytes := by ring
      have here : start + (i + 1) * chunkBytes = start + chunkBytes + i * chunkBytes := by ring
      rw [chunksFrom, next, here]
      by_cases whole : start + chunkBytes ≤ raw.length
      · rw [if_pos ⟨positive, whole⟩, List.getElem?_cons_succ, ih]
      · rw [if_neg (fun both => whole both.2), if_neg (by omega), List.getElem?_nil]

/-- A file that cannot be read has no chunks. -/
def readChunks {α : Type} (raw : Option Buffer) (chunkBytes : Nat) (map : Buffer → α) : List α :=
  match raw with
  | none => []
  | some raw => chunksFrom raw chunkBytes map 0

/-- The chunk of an index is there when all of its bytes are. -/
theorem getElem?_readChunks {α : Type} (raw : Option Buffer) {chunkBytes : Nat} (map : Buffer → α)
    (positive : 0 < chunkBytes) (i : Nat) :
    (readChunks raw chunkBytes map)[i]? = raw.bind fun raw =>
      if (i + 1) * chunkBytes ≤ raw.length then some (map ((raw.drop (i * chunkBytes)).take chunkBytes))
      else none := by
  cases raw with
  | none => rfl
  | some raw =>
      rw [readChunks, getElem?_chunksFrom raw map positive, Nat.zero_add, Nat.zero_add]
      rfl

def readHashes (raw : Option Buffer) : List Nat :=
  readChunks raw (hashW * hashH) dHash

def readBlurs (raw : Option Buffer) : List Double :=
  readChunks raw (blurW * blurH) fun chunk => laplacianVariance chunk blurW blurH

/-- `computeFps`, of a duration that is finite and positive where it is known. -/
def computeFps (durationSec : Option Double) (maxFrames : Int) : Double :=
  match durationSec with
  | none => defaultFps
  | some durationSec =>
      if durationSec ≤ 0 ∨ maxFrames ≤ 0 then defaultFps
      else min maxFps (max minFps ((Double.ofInt maxFrames).div durationSec))

theorem minFps_le_maxFps : minFps ≤ maxFps :=
  Double.ofRat_mono (by norm_num)

theorem computeFps_mem (durationSec : Option Double) (maxFrames : Int) :
    minFps ≤ computeFps durationSec maxFrames ∧ computeFps durationSec maxFrames ≤ maxFps := by
  have known : minFps ≤ defaultFps ∧ defaultFps ≤ maxFps :=
    ⟨Double.ofRat_mono (by norm_num), Double.ofInt_mono (by norm_num)⟩
  unfold computeFps
  split
  · exact known
  · split
    · exact known
    · exact ⟨le_min minFps_le_maxFps (le_max_left _ _), min_le_left _ _⟩

structure WorkFrame where
  timestampMs : Int
  jpeg : Buffer
  hash : Option Nat
  blurScore : Option Double

def isFrameFile (name : String) : Bool :=
  name.startsWith "frame_" && name.endsWith ".jpg"

def frameFiles (dir : Directory) : List String :=
  ((dir.map (·.1)).filter isFrameFile).mergeSort fun left right => left ≤ right

def timestampMs (fps : Double) (index : Nat) : Int :=
  ((Double.ofInt (index * 1000)).div fps).round

theorem minFps_value : 1 / 32 ≤ minFps.value := by
  have exactly : nearest (1 / 32) = 1 / 32 := by
    have power := nearest_of_representable (representable_zpow (show (-1074 : ℤ) ≤ -5 by norm_num))
    norm_num at power ⊢
    exact power
  rw [← exactly]
  exact nearest_mono (by norm_num)

theorem maxFps_value : maxFps.value = 30 := Double.ofInt_value (by norm_num)

/-- At no more than thirty frames a second, frames are over thirty milliseconds apart. -/
theorem timestampMs_lt {fps : Double} (slow : minFps ≤ fps) (fast : fps ≤ maxFps) {low high : Nat} (lt : low < high)
    (small : high < 1000) : timestampMs fps low < timestampMs fps high := by
  have least : 1 / 32 ≤ fps.value := minFps_value.trans (Double.le_iff.mp slow)
  have most : fps.value ≤ 30 := maxFps_value ▸ Double.le_iff.mp fast
  have positive : 0 < fps.value := by linarith
  have millis (index : Nat) (small : index < 1000) :
      ((Double.ofInt (index * 1000)).div fps) = Double.ofRat (index * 1000 / fps.value) := by
    rw [Double.div, Double.ofInt_value (abs_le.mpr ⟨by omega, by omega⟩)]
    push_cast
    rfl
  rw [timestampMs, timestampMs, millis low (by omega), millis high small]
  have lowNonneg : (0 : ℚ) ≤ low := Nat.cast_nonneg low
  have lowSmall : (low : ℚ) ≤ 999 := by exact_mod_cast (by omega : low ≤ 999)
  have step : (low : ℚ) + 1 ≤ high := by exact_mod_cast lt
  refine Double.round_ofRat_lt (by positivity) ?_ ?_
  · rw [div_le_iff₀ positive]
    linarith
  · rw [div_add' _ _ _ positive.ne', div_le_div_iff_of_pos_right positive]
    linarith

def workFrames (fps : Double) (jpegs : List Buffer) (hashes : List Nat) (blurs : List Double) : List WorkFrame :=
  jpegs.mapIdx fun i jpeg =>
    { timestampMs := timestampMs fps i, jpeg := jpeg, hash := hashes[i]?, blurScore := blurs[i]? }

/-- Only when every frame has a score. -/
def pruneBlurred (kept : List WorkFrame) : List WorkFrame :=
  if 0 < kept.length ∧ kept.all fun frame => frame.blurScore.isSome then
    let keep := sharpFrameIndices (kept.filterMap (·.blurScore)) blurRel minKeep
    (kept.zipIdx.filter fun pair => pair.2 ∈ keep).map (·.1)
  else kept

theorem pruneBlurred_sublist (kept : List WorkFrame) : (pruneBlurred kept).Sublist kept := by
  unfold pruneBlurred
  split
  · have filtered := (List.filter_sublist (l := kept.zipIdx) (p := fun pair =>
      decide (pair.2 ∈ sharpFrameIndices (kept.filterMap (·.blurScore)) blurRel minKeep))).map (·.1)
    rwa [List.zipIdx_map_fst] at filtered
  · exact List.Sublist.refl _

theorem pruneBlurred_ne_nil {kept : List WorkFrame} (some : kept ≠ []) : pruneBlurred kept ≠ [] := by
  unfold pruneBlurred
  split
  · rename_i scored
    have scores : (kept.filterMap (·.blurScore)).length = kept.length := by
      rw [List.filterMap_length_eq_length]
      exact fun frame member => List.all_eq_true.mp scored.2 frame member
    have keeps : sharpFrameIndices (kept.filterMap (·.blurScore)) blurRel minKeep ≠ [] :=
      sharpFrameIndices_ne_nil (by rw [scores]; exact scored.1) (by decide)
    obtain ⟨i, sharp⟩ := List.exists_mem_of_ne_nil _ keeps
    have inside : i < kept.length := scores ▸ lt_of_mem_sharpFrameIndices sharp
    refine List.ne_nil_of_mem (a := kept[i]) (List.mem_map.mpr ⟨(kept[i], i), List.mem_filter.mpr ⟨?_, ?_⟩, rfl⟩)
    · exact List.mem_zipIdx_iff_getElem?.mpr (List.getElem?_eq_getElem inside)
    · exact decide_eq_true sharp
  · exact some

/-- Only when every survivor has a hash. -/
def dropDuplicates (kept : List WorkFrame) : List WorkFrame :=
  if 0 < kept.length ∧ kept.all fun frame => frame.hash.isSome then
    dedupeByHash (fun frame => frame.hash.getD 0) (Number.ofInt dedupHamming) kept
  else kept

theorem dropDuplicates_sublist (kept : List WorkFrame) : (dropDuplicates kept).Sublist kept := by
  unfold dropDuplicates
  split
  · exact dedupeByHash_sublist _ _ kept
  · exact List.Sublist.refl _

theorem dropDuplicates_ne_nil {kept : List WorkFrame} (some : kept ≠ []) : dropDuplicates kept ≠ [] := by
  unfold dropDuplicates
  split
  · exact dedupeByHash_ne_nil some
  · exact some

structure VideoFrame where
  timestampMs : Int
  jpeg : Buffer
  blurScore : Option Double

def WorkFrame.videoFrame (frame : WorkFrame) : VideoFrame :=
  { timestampMs := frame.timestampMs, jpeg := frame.jpeg, blurScore := frame.blurScore }

/-- `extractVideoFrames` once ffmpeg is done. -/
def selectFrames (fps : Double) (dir : Directory) : Option (List VideoFrame) := do
  let jpegs ← (frameFiles dir).mapM dir.readFile
  let hashes := readHashes (dir.readFile "hashes.gray")
  let blurs := readBlurs (dir.readFile "blur.gray")
  let kept := dropDuplicates (pruneBlurred (workFrames fps jpegs hashes blurs))
  return kept.map WorkFrame.videoFrame

end Video

structure AiImage where
  base64 : String
  mimeType : String

structure SampledFrame where
  frameIndex : Nat
  timestampMs : Option Int
  blurScore : Option Double
  image : AiImage

/-- What the sampler runs on: the object store, the two binaries, and Node's base64. -/
structure Host where
  storeReady : Bool
  download : String → String → Option Buffer
  ffmpegReady : Bool
  probeDuration : Buffer → Option Double
  runFfmpeg : Buffer → Double → Int → Option Directory
  base64 : Buffer → String

def isVideo (media : SourceMedia) : Bool :=
  media.type = .video || (media.mimeType.map fun mimeType => mimeType.startsWith "video/").getD false

def extractVideoFrames (host : Host) (input : Buffer) (maxFrames : Int) : Option (List VideoFrame) := do
  let fps := computeFps (host.probeDuration input) maxFrames
  let dir ← host.runFfmpeg input fps (max 1 maxFrames)
  selectFrames fps dir

def numberFrames (base64 : Buffer → String) (frames : List VideoFrame) : List SampledFrame :=
  frames.mapIdx fun i frame =>
    { frameIndex := i, timestampMs := some frame.timestampMs, blurScore := frame.blurScore,
      image := { base64 := base64 frame.jpeg, mimeType := "image/jpeg" } }

/-- A failure on the way ends in no frames. -/
def sample (host : Host) (media : SourceMedia) (maxFrames : Int) : List SampledFrame :=
  if ¬ host.storeReady then []
  else Option.getD (do
    let bytes ← host.download media.bucket media.objectKey
    if ¬ isVideo media then
      return [{ frameIndex := 0, timestampMs := some 0, blurScore := none,
                image := { base64 := host.base64 bytes, mimeType := media.mimeType.getD "image/jpeg" } }]
    if ¬ host.ffmpegReady then
      return []
    return numberFrames host.base64 (← extractVideoFrames host bytes maxFrames)) []

end Aicos.Extraction.FrameSampler
