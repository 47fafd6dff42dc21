import Aicos.Media.Uploads

namespace Aicos.Properties

open Aicos.Extraction Aicos.Media

/-! Where the objects of uploads lie. -/

/-- One step of a path, down. -/
structure PathSegment (text : String) : Prop where
  filled : text ≠ ""
  whole : '/' ∉ text.toList ∧ '\\' ∉ text.toList
  undotted : text ≠ "." ∧ text ≠ ".."

/-- What is put after `tenants/…/media/`. -/
def mediaSegment (uuid : Uuid) (filename : List UInt16) : String :=
  s!"{uuid.text}-{sanitizeFilename filename}"

theorem toList_mediaSegment (uuid : Uuid) (filename : List UInt16) :
    (mediaSegment uuid filename).toList = uuid.text.toList ++ '-' :: (sanitizeFilename filename).toList := by
  simp [mediaSegment, String.toList_append, toString]

theorem mem_mediaSegment {uuid : Uuid} {filename : List UInt16} {char : Char}
    (member : char ∈ (mediaSegment uuid filename).toList) : isNameChar char = true := by
  rw [toList_mediaSegment] at member
  refine decide_eq_true ?_
  rcases List.mem_append.mp member with random | later
  · rcases uuid.hex char random with digit | letter | hyphen
    · exact .inr (.inr (.inl digit))
    · exact .inr (.inl ⟨letter.1, Char.le_trans letter.2 (by decide)⟩)
    · exact .inr (.inr (.inr (.inr (.inr hyphen))))
  · rcases List.mem_cons.mp later with hyphen | name
    · exact .inr (.inr (.inr (.inr (.inr hyphen))))
    · exact of_decide_eq_true ((sanitizeFilename_safe filename).inside char name)

theorem pathSegment_mediaSegment (uuid : Uuid) (filename : List UInt16) :
    PathSegment (mediaSegment uuid filename) := by
  have hyphen : '-' ∈ (mediaSegment uuid filename).toList := by
    rw [toList_mediaSegment]
    exact List.mem_append_right _ List.mem_cons_self
  have differs {text : String} (without : '-' ∉ text.toList) : mediaSegment uuid filename ≠ text := by
    intro same
    rw [same] at hyphen
    exact without hyphen
  refine ⟨differs (by decide), ⟨?_, ?_⟩, differs (by decide), differs (by decide)⟩
  · exact fun slash => absurd (mem_mediaSegment slash) (by decide)
  · exact fun backslash => absurd (mem_mediaSegment backslash) (by decide)

theorem uploadKey_eq (tenantId : String) (uuid : Uuid) (filename : List UInt16) :
    uploadKey tenantId uuid filename = s!"tenants/{tenantId}/media/{mediaSegment uuid filename}" := by
  simp only [uploadKey, mediaSegment, toString, String.append_assoc]

section Uploads

variable {s3 : S3} {state : MediaState} {tenantId : String} {dto : CreateUploadDto} {answers : UploadAnswers}

theorem presignUpload_ok {key contentType url : String}
    (signed : s3.presignUpload answers key contentType = .ok url) :
    answers.signedUrl s3.bucket key contentType presignExpiresIn = some url := by
  unfold S3.presignUpload at signed
  split at signed
  · cases signed
  · cases made : answers.signedUrl s3.bucket key contentType presignExpiresIn with
    | none =>
        rw [made] at signed
        cases signed
    | some text =>
        rw [made] at signed
        cases signed
        rfl

theorem signed_of_created {result : CreateUploadResult}
    (created : (createUpload s3 state tenantId dto answers).1 = .ok result) :
    result.storageKey = uploadKey tenantId answers.uuid dto.filename ∧
      answers.signedUrl s3.bucket result.storageKey dto.contentType presignExpiresIn = some result.uploadUrl := by
  unfold createUpload at created
  dsimp only at created
  split at created
  · cases created
  · rename_i url signed
    split at created
    · cases created
    · cases created
      exact ⟨rfl, presignUpload_ok signed⟩

theorem mem_insertRow {answer : Transition.Answer} {row asset : MediaAsset} {rows after : ReviewRows}
    {outcome : Except MediaError Unit} (inserted : insertRow answer row rows = (outcome, after))
    (member : asset ∈ after.mediaAssets) : asset ∈ rows.mediaAssets ∨ asset = row := by
  unfold insertRow at inserted
  split at inserted
  · cases inserted
    exact .inl member
  · cases inserted
    exact (List.mem_append.mp member).imp id List.mem_singleton.mp

theorem mem_createUpload {asset : MediaAsset}
    (member : asset ∈ (createUpload s3 state tenantId dto answers).2.rows.mediaAssets) :
    asset ∈ state.rows.mediaAssets ∨ asset.objectKey = uploadKey tenantId answers.uuid dto.filename := by
  unfold createUpload at member
  dsimp only at member
  split at member
  · exact .inl member
  · split at member
    · rename_i inserted
      exact (mem_insertRow inserted member).imp id (congrArg MediaAsset.objectKey)
    · rename_i inserted
      exact (mem_insertRow inserted member).imp id (congrArg MediaAsset.objectKey)

end Uploads

/-- Whatever a file is called, its sanitised name is safe and stays as it is, and its object lies
right under the media of its tenant. -/
theorem uploads_stay_under_tenant :
    (∀ filename, SafeName (sanitizeFilename filename) ∧
      sanitizeFilename (codeUnits (sanitizeFilename filename)) = sanitizeFilename filename) ∧
    ∀ s3 state tenantId dto answers, ∃ segment, PathSegment segment ∧
      (∀ result, (createUpload s3 state tenantId dto answers).1 = .ok result →
        result.storageKey = s!"tenants/{tenantId}/media/{segment}" ∧
        answers.signedUrl s3.bucket result.storageKey dto.contentType presignExpiresIn = some result.uploadUrl) ∧
      ∀ asset ∈ (createUpload s3 state tenantId dto answers).2.rows.mediaAssets,
        asset ∈ state.rows.mediaAssets ∨ asset.objectKey = s!"tenants/{tenantId}/media/{segment}" := by
  constructor
  · intro filename
    have safe := sanitizeFilename_safe filename
    exact ⟨safe, safe.sanitize_eq⟩
  · intro s3 state tenantId dto answers
    refine ⟨mediaSegment answers.uuid dto.filename, pathSegment_mediaSegment _ _, ?_, ?_⟩
    · intro result created
      rw [← uploadKey_eq]
      exact signed_of_created created
    · intro asset member
      rw [← uploadKey_eq]
      exact mem_createUpload member

end Aicos.Properties
