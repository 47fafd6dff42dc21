import Aicos.Extraction.Review
import Aicos.Transition.Backlog

namespace Aicos.Media

open Aicos.Data Aicos.Extraction Aicos.Transition

/-! `MediaService.remove`: the object of an asset is deleted from the bucket, and then its
row, which a product image keeps from being deleted. -/

/-- A stored object: its bucket and its key there. -/
abbrev StoredObject := String × String

/-- `S3Service`: whether there is a client, the one bucket it works on, and whether the
store behind it answers the deletion of a missing object with an error. -/
structure S3 where
  isConfigured : Bool
  bucket : String
  reportsMissing : Bool

inductive MediaError where
  | notFound (message : String)
  | serviceUnavailable (message : String)
  | storage
  | database
deriving DecidableEq

/-- The rows of one tenant, and the objects of the store. -/
structure MediaState where
  rows : ReviewRows
  objects : List StoredObject

inductive DeleteReply where
  | done | notFound | failed
deriving DecidableEq

/-- How the calls of `remove` to the database and to the store end. -/
structure RemoveAnswers where
  found : Answer
  object : Answer
  row : Answer
deriving DecidableEq

def MediaState.findAsset (state : MediaState) (id : MediaId) : Option MediaAsset :=
  state.rows.mediaAssets.find? fun asset => asset.id = id

def dropObject (object : StoredObject) (objects : List StoredObject) : List StoredObject :=
  objects.filter fun other => other ≠ object

namespace S3

variable (s3 : S3)

/-- `client.send(new DeleteObjectCommand(…))`. -/
def send (answer : Answer) (key : String) (objects : List StoredObject) : DeleteReply × List StoredObject :=
  match answer with
  | .fails => (.failed, objects)
  | .lost => (.failed, dropObject (s3.bucket, key) objects)
  | .works =>
      if s3.reportsMissing ∧ (s3.bucket, key) ∉ objects then (.notFound, objects)
      else (.done, dropObject (s3.bucket, key) objects)

/-- A missing object is a success. -/
def deleteObject (answer : Answer) (key : String) (objects : List StoredObject) :
    Except MediaError Unit × List StoredObject :=
  if ¬ s3.isConfigured then
    (.error (.serviceUnavailable
      "Object storage is not configured (set S3_ENDPOINT, S3_ACCESS_KEY, S3_SECRET_KEY)"), objects)
  else
    match s3.send answer key objects with
    | (.done, after) | (.notFound, after) => (.ok (), after)
    | (.failed, after) => (.error .storage, after)

end S3

/-- The transaction with `tx.mediaAsset.delete`. -/
def deleteRow (answer : Answer) (id : MediaId) (rows : ReviewRows) : Except MediaError Unit × ReviewRows :=
  if answer = .fails ∨ ¬ rows.admits (.deleteMedia id) then (.error .database, rows)
  else (if answer = .works then .ok () else .error .database, rows.deleteMedia id)

def remove (s3 : S3) (state : MediaState) (id : MediaId) (answers : RemoveAnswers) :
    Except MediaError MediaId × MediaState :=
  if answers.found ≠ .works then (.error .database, state)
  else
    match state.findAsset id with
    | none => (.error (.notFound "Media asset not found"), state)
    | some asset =>
        match s3.deleteObject answers.object asset.objectKey state.objects with
        | (.error error, objects) => (.error error, { state with objects })
        | (.ok (), objects) =>
            match deleteRow answers.row id state.rows with
            | (.error error, rows) => (.error error, { rows, objects })
            | (.ok (), rows) => (.ok id, { rows, objects })

end Aicos.Media
