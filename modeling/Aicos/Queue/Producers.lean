import Aicos.Data.Json
import Aicos.Extraction.Schema
import Aicos.Gdpr.Erasure
import Aicos.Transition.Backlog

namespace Aicos.Queue

open Aicos.Commerce Aicos.Data Aicos.Transition
open Aicos.Extraction (ExtractionJob JobId MediaId)
open Aicos.Gdpr (DsarRequest DsarRequestId DsarType)

/-! The producers of the queues: `GdprService.createRequest`, `ExtractionService.create`
and `NotificationsService.enqueue`.  Each commits a row and then adds its job, under a
`jobId` made of the row's id. -/

abbrev NotificationId := Nat

inductive ExtractionSource where
  | video | photoBatch | barcodeScan | csvImport | woocommerceImport
deriving DecidableEq

structure UploadedMedia where
  id : MediaId
  checksumSha256 : Option String
  durationMs : Option Nat
deriving DecidableEq

structure QueuedExtraction extends ExtractionJob where
  storeId : Option StoreId
  source : ExtractionSource
  durationSeconds : Option Nat
deriving DecidableEq

inductive NotificationChannel where
  | email | inApp | sms | webhook | chat
deriving DecidableEq

inductive NotificationStatus where
  | pending | sent | delivered | failed | bounced
deriving DecidableEq

structure Notification where
  id : NotificationId
  channel : NotificationChannel
  status : NotificationStatus
  template : String
  toAddress : Option String
  subject : Option String
  payload : Json
  refType : Option String
  refId : Option String

structure DsarJobData where
  tenantId : TenantId
  dsarRequestId : DsarRequestId
deriving DecidableEq

/-- `media.checksumSha256 ?? media.id`. -/
inductive ETag where
  | checksum (sha256 : String)
  | media (id : MediaId)
deriving DecidableEq

structure ExtractionJobData where
  tenantId : TenantId
  extractionRunId : JobId
  s3ETag : ETag
  segmentIndex : Nat
deriving DecidableEq

structure NotificationJobData where
  tenantId : TenantId
  notificationId : NotificationId
deriving DecidableEq

structure CreateExtractionDto where
  mediaId : MediaId
  storeId : Option StoreId
  source : Option ExtractionSource
deriving DecidableEq

structure EnqueueNotification where
  template : String
  toAddress : Option String
  subject : Option String
  payload : Option Json
  refType : Option String
  refId : Option String

/-- The rows and the queues of one tenant. -/
structure Producers where
  tenantId : TenantId
  mediaAssets : List UploadedMedia
  dsar : Backlog DsarRequest DsarJobData
  extraction : Backlog QueuedExtraction ExtractionJobData
  notifications : Backlog Notification NotificationJobData

inductive ProducerError where
  | notFound (message : String)
  | unavailable
deriving DecidableEq

/-- How the calls of a producer to the database and to Redis end; `found` is the look-up
that only `ExtractionService.create` makes. -/
structure Answers where
  found : Answer
  stored : Answer
  added : Answer
deriving DecidableEq

inductive ProducerCall where
  | createRequest (type : DsarType) (subjectEmail : String) (now : Instant)
  | createExtraction (dto : CreateExtractionDto)
  | enqueue (notification : EnqueueNotification)

def newRequest (id : DsarRequestId) (type : DsarType) (subjectEmail : String) (now : Instant) : DsarRequest where
  id := id
  type := type
  status := .received
  subjectEmail := subjectEmail
  dueAt := now + 30 * 24 * 60 * 60 * 1000
  completedAt := none

/-- `Math.round(media.durationMs / 1000)`, where the duration is neither missing nor 0. -/
def durationSeconds (media : UploadedMedia) : Option Nat :=
  (media.durationMs.filter fun duration => duration ≠ 0).map fun duration => (duration + 500) / 1000

def newExtraction (id : JobId) (media : UploadedMedia) (dto : CreateExtractionDto) : QueuedExtraction where
  id := id
  sourceMediaId := some media.id
  status := .queued
  framesExtracted := 0
  framesAnalyzed := 0
  productsFound := 0
  errorMessage := none
  startedAt := none
  completedAt := none
  storeId := dto.storeId
  source := dto.source.getD .video
  durationSeconds := durationSeconds media

def extractionJobData (tenantId : TenantId) (media : UploadedMedia) (row : QueuedExtraction) : ExtractionJobData where
  tenantId := tenantId
  extractionRunId := row.id
  s3ETag := (media.checksumSha256.map ETag.checksum).getD (.media media.id)
  segmentIndex := 0

def newNotification (id : NotificationId) (n : EnqueueNotification) : Notification where
  id := id
  channel := .email
  status := .pending
  template := n.template
  toAddress := n.toAddress
  subject := n.subject
  payload := n.payload.getD (.object [])
  refType := n.refType
  refId := n.refId

/-- A destination that is neither missing nor empty. -/
def EnqueueNotification.hasDestination (n : EnqueueNotification) : Bool :=
  n.toAddress.any fun address => address ≠ ""

section Calls

variable (keys : KeySource) (answers : Answers) (state : Producers)

def replied (returned : Bool) : Except ProducerError Unit :=
  if returned then .ok () else .error .unavailable

def createRequest (type : DsarType) (subjectEmail : String) (now : Instant) : Except ProducerError Unit × Producers :=
  let row := newRequest (keys.next (state.dsar.rows.map DsarRequest.id)) type subjectEmail now
  let (returned, dsar) := state.dsar.produce DsarJobData.dsarRequestId answers.stored answers.added row
    ⟨state.tenantId, row.id⟩
  (replied returned, { state with dsar })

def createExtraction (dto : CreateExtractionDto) : Except ProducerError Unit × Producers :=
  if answers.found ≠ .works then (.error .unavailable, state)
  else
    match state.mediaAssets.find? fun media => media.id = dto.mediaId with
    | none => (.error (.notFound "Media asset not found"), state)
    | some media =>
        let row := newExtraction (keys.next (state.extraction.rows.map fun row => row.id)) media dto
        let (returned, extraction) := state.extraction.produce ExtractionJobData.extractionRunId answers.stored
          answers.added row (extractionJobData state.tenantId media row)
        (replied returned, { state with extraction })

def enqueue (n : EnqueueNotification) : Except ProducerError Unit × Producers :=
  if n.hasDestination then
    let row := newNotification (keys.next (state.notifications.rows.map Notification.id)) n
    let (returned, notifications) := state.notifications.produce NotificationJobData.notificationId answers.stored
      answers.added row ⟨state.tenantId, row.id⟩
    (replied returned, { state with notifications })
  else (.ok (), state)

def ProducerCall.run : ProducerCall → Except ProducerError Unit × Producers
  | .createRequest type subjectEmail now => Queue.createRequest keys answers state type subjectEmail now
  | .createExtraction dto => Queue.createExtraction keys answers state dto
  | .enqueue n => Queue.enqueue keys answers state n

end Calls

/-- What changes the rows and the queues: calls of the producers, however the database
and Redis answer, and workers that run jobs. -/
inductive ProducerAction where
  | call (call : ProducerCall) (answers : Answers)
  | processRequest (id : DsarRequestId)
  | processExtraction (id : JobId)
  | processNotification (id : NotificationId)

def Producers.step (keys : KeySource) (state : Producers) : ProducerAction → Producers
  | .call call answers => (call.run keys answers state).2
  | .processRequest id => { state with dsar := state.dsar.process DsarJobData.dsarRequestId id }
  | .processExtraction id =>
      { state with extraction := state.extraction.process ExtractionJobData.extractionRunId id }
  | .processNotification id =>
      { state with notifications := state.notifications.process NotificationJobData.notificationId id }

end Aicos.Queue
