import Aicos.Data.Joined
import Aicos.Data.Text

namespace Aicos.Queue

open Aicos.Data

/-! The ids under which the pieces of an extraction are jobs: BullMQ drops a job whose id it
already has. -/

/-- `EXTRACTION_STAGES`. -/
inductive ExtractionStage where
  | validate | sample | analyze | refine | merge | enrich | publish
deriving DecidableEq

def ExtractionStage.text : ExtractionStage → String
  | .validate => "validate"
  | .sample => "sample"
  | .analyze => "analyze"
  | .refine => "refine"
  | .merge => "merge"
  | .enrich => "enrich"
  | .publish => "publish"

def extractionJobId (tenantId s3ETag : String) (segmentIndex : Nat) (stage : ExtractionStage) : String :=
  "__".intercalate ["x", tenantId, s3ETag, toString segmentIndex, stage.text]

theorem ExtractionStage.text_injective : Function.Injective ExtractionStage.text := by
  intro first second same
  cases first <;> cases second <;> first | rfl | exact absurd same (by decide)

theorem ExtractionStage.underscore_notMem_text (stage : ExtractionStage) : '_' ∉ stage.text.toList := by
  cases stage <;> decide

theorem underscore_notMem_toString (number : Nat) : '_' ∉ (toString number).toList := by
  have digits : (toString number).toList = Nat.toDigits 10 number := Nat.toList_repr
  rw [digits]
  exact Nat.underscore_not_in_toDigits

theorem toList_extractionJobId (tenantId s3ETag : String) (segmentIndex : Nat) (stage : ExtractionStage) :
    (extractionJobId tenantId s3ETag segmentIndex stage).toList =
      joined '_' ['x'] (joined '_' tenantId.toList
        (joined '_' (joined '_' s3ETag.toList (toString segmentIndex).toList) stage.text.toList)) := by
  rw [← joined_assoc]
  simp [extractionJobId, joined]

end Aicos.Queue
