import Aicos.Media.Service

namespace Aicos.Media

open Aicos.Data Aicos.Extraction Aicos.Transition

/-! `MediaService.createUpload`: a key for a new object, a presigned address to put it at, and its
row.  A file name comes from the client, and is the code units that a JavaScript string is. -/

def isSeparator (unit : UInt16) : Bool :=
  unit.toNat = '\\'.toNat ∨ unit.toNat = '/'.toNat

/-- `[A-Za-z0-9._-]`. -/
def isNameChar (char : Char) : Bool :=
  ('A' ≤ char ∧ char ≤ 'Z') ∨ ('a' ≤ char ∧ char ≤ 'z') ∨ ('0' ≤ char ∧ char ≤ '9') ∨
    char = '.' ∨ char = '_' ∨ char = '-'

/-- Half of a surrogate pair is no character, and is replaced as well. -/
def replaceUnit (unit : UInt16) : Char :=
  if isNameChar (Char.ofNat unit.toNat) then Char.ofNat unit.toNat else '_'

def sanitizeFilename (filename : List UInt16) : String :=
  let base := (filename.splitOnP isSeparator).getLast?.getD filename
  let cleaned := (base.map replaceUnit).dropWhile (· = '.')
  if cleaned.length > 0 then String.ofList cleaned else "file"

/-- The code units of a text. -/
def codeUnits (text : String) : List UInt16 :=
  text.toList.flatMap fun char =>
    if char.toNat < 0x10000 then [UInt16.ofNat char.toNat]
    else
      [UInt16.ofNat (0xd800 + (char.toNat - 0x10000) / 0x400),
        UInt16.ofNat (0xdc00 + (char.toNat - 0x10000) % 0x400)]

example : sanitizeFilename (codeUnits "..\\etc/..my photo.png") = "my_photo.png" := by decide

/-- What `randomUUID` returns: hexadecimal digits and hyphens. -/
structure Uuid where
  text : String
  hex : ∀ char ∈ text.toList, ('0' ≤ char ∧ char ≤ '9') ∨ ('a' ≤ char ∧ char ≤ 'f') ∨ char = '-'

structure CreateUploadDto where
  filename : List UInt16
  contentType : String
  kind : Option MediaType

structure CreateUploadResult where
  assetId : MediaId
  uploadUrl : String
  storageKey : String
  expiresIn : Nat
deriving DecidableEq

def presignExpiresIn : Nat := 900

/-- What an upload draws and is answered: the random part of the key, the cuid of the row, what
`getSignedUrl` makes of bucket, key, type and lifetime, and how the insert ends. -/
structure UploadAnswers where
  uuid : Uuid
  id : MediaId
  signedUrl : String → String → String → Nat → Option String
  row : Answer

def S3.presignUpload (s3 : S3) (answers : UploadAnswers) (key contentType : String) : Except MediaError String :=
  if ¬ s3.isConfigured then
    .error (.serviceUnavailable
      "Object storage is not configured (set S3_ENDPOINT, S3_ACCESS_KEY, S3_SECRET_KEY)")
  else
    match answers.signedUrl s3.bucket key contentType presignExpiresIn with
    | none => .error .storage
    | some url => .ok url

def uploadKey (tenantId : String) (uuid : Uuid) (filename : List UInt16) : String :=
  s!"tenants/{tenantId}/media/{uuid.text}-{sanitizeFilename filename}"

/-- The transaction with `tx.mediaAsset.create`. -/
def insertRow (answer : Answer) (asset : MediaAsset) (rows : ReviewRows) : Except MediaError Unit × ReviewRows :=
  if answer = .fails ∨ rows.mediaAssets.any fun other => other.id = asset.id then (.error .database, rows)
  else (if answer = .works then .ok () else .error .database,
    { rows with mediaAssets := rows.mediaAssets ++ [asset] })

/-- The address is signed first: without storage there is no row. -/
def createUpload (s3 : S3) (state : MediaState) (tenantId : String) (dto : CreateUploadDto)
    (answers : UploadAnswers) : Except MediaError CreateUploadResult × MediaState :=
  let objectKey := uploadKey tenantId answers.uuid dto.filename
  match s3.presignUpload answers objectKey dto.contentType with
  | .error error => (.error error, state)
  | .ok uploadUrl =>
      let asset : MediaAsset :=
        { id := answers.id, type := dto.kind.getD .image, status := .uploading, bucket := s3.bucket,
          objectKey := objectKey, mimeType := some dto.contentType, isTemporary := false }
      match insertRow answers.row asset state.rows with
      | (.error error, rows) => (.error error, { state with rows })
      | (.ok (), rows) =>
          (.ok {
            assetId := asset.id
            uploadUrl := uploadUrl
            storageKey := asset.objectKey
            expiresIn := presignExpiresIn }, { state with rows })

section Names

/-- The shape of a sanitised name. -/
structure SafeName (name : String) : Prop where
  filled : name.toList ≠ []
  inside : ∀ char ∈ name.toList, isNameChar char = true
  undotted : name.toList.head? ≠ some '.'

theorem toNat_lt_of_isNameChar {char : Char} (name : isNameChar char = true) :
    char.toNat < 128 ∧ char.toNat ≠ 47 ∧ char.toNat ≠ 92 := by
  have bounds : (65 ≤ char.toNat ∧ char.toNat ≤ 90) ∨ (97 ≤ char.toNat ∧ char.toNat ≤ 122) ∨
      (48 ≤ char.toNat ∧ char.toNat ≤ 57) ∨ char.toNat = 46 ∨ char.toNat = 95 ∨ char.toNat = 45 := by
    rcases of_decide_eq_true name with upper | lower | digit | rfl | rfl | rfl
    · exact .inl upper
    · exact .inr (.inl lower)
    · exact .inr (.inr (.inl digit))
    · decide
    · decide
    · decide
  omega

theorem isNameChar_replaceUnit (unit : UInt16) : isNameChar (replaceUnit unit) = true := by
  unfold replaceUnit
  split
  · assumption
  · decide

theorem sanitizeFilename_safe (filename : List UInt16) : SafeName (sanitizeFilename filename) := by
  let base := (filename.splitOnP isSeparator).getLast?.getD filename
  let cleaned := (base.map replaceUnit).dropWhile (· = '.')
  have sanitized : sanitizeFilename filename = if cleaned.length > 0 then String.ofList cleaned else "file" := rfl
  by_cases left : cleaned.length > 0
  · rw [sanitized, if_pos left]
    constructor
    · rw [String.toList_ofList]
      exact List.length_pos_iff.mp left
    · intro char member
      rw [String.toList_ofList] at member
      obtain ⟨unit, _, rfl⟩ := List.mem_map.mp ((List.dropWhile_sublist _).subset member)
      exact isNameChar_replaceUnit unit
    · rw [String.toList_ofList]
      intro dot
      have stripped : (base.map replaceUnit).dropWhile (fun char => decide (char = '.')) = cleaned := rfl
      have first := List.head?_dropWhile_not (fun char => decide (char = '.')) (base.map replaceUnit)
      rw [stripped, dot] at first
      cases first
  · rw [sanitized, if_neg left]
    exact { filled := by decide, inside := List.all_eq_true.mp rfl, undotted := by decide }

variable {name : String}

/-- A safe name has one code unit for each character. -/
theorem SafeName.codeUnits_eq (safe : SafeName name) :
    codeUnits name = name.toList.map fun char => UInt16.ofNat char.toNat := by
  unfold codeUnits
  rw [List.map_eq_flatMap]
  refine List.flatMap_congr fun char member => ?_
  have small := (toNat_lt_of_isNameChar (safe.inside char member)).1
  rw [if_pos (by omega)]

theorem replaceUnit_ofNat {char : Char} (kept : isNameChar char = true) :
    (UInt16.ofNat char.toNat).toNat = char.toNat ∧ replaceUnit (UInt16.ofNat char.toNat) = char := by
  have small := (toNat_lt_of_isNameChar kept).1
  have unit : (UInt16.ofNat char.toNat).toNat = char.toNat := UInt16.toNat_ofNat_of_lt' (small.trans (by decide))
  have back : Char.ofNat (UInt16.ofNat char.toNat).toNat = char := by rw [unit, Char.ofNat_toNat]
  exact ⟨unit, by rw [replaceUnit, back, if_pos kept]⟩

theorem SafeName.sanitize_eq (safe : SafeName name) : sanitizeFilename (codeUnits name) = name := by
  have whole : ∀ unit ∈ codeUnits name, isSeparator unit = false := by
    intro unit member
    rw [safe.codeUnits_eq] at member
    obtain ⟨char, inside, rfl⟩ := List.mem_map.mp member
    obtain ⟨_, noSlash, noBackslash⟩ := toNat_lt_of_isNameChar (safe.inside char inside)
    refine decide_eq_false ?_
    rw [(replaceUnit_ofNat (safe.inside char inside)).1]
    exact fun separator => separator.elim noBackslash noSlash
  have kept : (codeUnits name).map replaceUnit = name.toList := by
    rw [safe.codeUnits_eq, List.map_map]
    refine (List.map_congr_left fun char inside => ?_).trans (List.map_id _)
    exact (replaceUnit_ofNat (safe.inside char inside)).2
  have stripped : name.toList.dropWhile (· = '.') = name.toList := by
    obtain ⟨first, rest, list⟩ := List.exists_cons_of_ne_nil safe.filled
    have undotted := safe.undotted
    rw [list, List.head?_cons] at undotted
    rw [list, List.dropWhile_cons_of_neg (by simpa using undotted)]
  have left : name.toList.length > 0 := List.length_pos_iff.mpr safe.filled
  simp only [sanitizeFilename, List.splitOnP_eq_singleton whole, List.getLast?_singleton, Option.getD_some, kept,
    stripped, if_pos left, String.ofList_toList]

end Names

end Aicos.Media
