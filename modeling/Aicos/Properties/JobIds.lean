import Aicos.Queue.JobIds

namespace Aicos.Properties

open Aicos.Data Aicos.Queue

/-! What the id of an extraction job says about the job. -/

/-- Tenant ids have no underscore, so the tenant is read from the front; index and stage have none
either, and are read from the back.  What is left between them is the ETag. -/
theorem extraction_job_ids_are_unique {tenantId tenantId' : String} (plain : '_' ∉ tenantId.toList)
    (plain' : '_' ∉ tenantId'.toList) (s3ETag s3ETag' : String) (segmentIndex segmentIndex' : Nat)
    (stage stage' : ExtractionStage) :
    extractionJobId tenantId s3ETag segmentIndex stage = extractionJobId tenantId' s3ETag' segmentIndex' stage' ↔
      tenantId = tenantId' ∧ s3ETag = s3ETag' ∧ segmentIndex = segmentIndex' ∧ stage = stage' := by
  constructor
  · intro same
    have lead : '_' ∉ ['x'] := by decide
    have texts := congrArg String.toList same
    rw [toList_extractionJobId, toList_extractionJobId, joined_inj_left lead lead, joined_inj_left plain plain',
      joined_inj_right stage.underscore_notMem_text stage'.underscore_notMem_text,
      joined_inj_right (underscore_notMem_toString _) (underscore_notMem_toString _)] at texts
    obtain ⟨_, tenant, ⟨etag, index⟩, name⟩ := texts
    exact ⟨String.toList_inj.mp tenant, String.toList_inj.mp etag, toString_injective (String.toList_inj.mp index),
      ExtractionStage.text_injective (String.toList_inj.mp name)⟩
  · intro parts
    obtain ⟨rfl, rfl, rfl, rfl⟩ := parts
    rfl

/-- An underscore more at the end of an ETag is not one at its front. -/
theorem underscored_etags_differ :
    extractionJobId "cm1" "e_" 0 .merge ≠ extractionJobId "cm1" "_e" 0 .merge := by
  have plain : '_' ∉ "cm1".toList := by decide
  intro same
  have parts := (extraction_job_ids_are_unique plain plain _ _ _ _ _ _).mp same
  exact absurd parts.2.1 (by decide)

end Aicos.Properties
