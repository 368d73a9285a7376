import SafeCameroon.Api.Reports
import SafeCameroon.Attachments.Calls

namespace SafeCameroon.Attachments

open Process Text

def persistenceFailed (requestId : Uuid) : ApiError :=
  { status := 500, code := "ATTACHMENT_PERSISTENCE_FAILED"
    message := "The attachment could not be saved. Please try again.", requestId }

def storageUnavailable (requestId : Uuid) : ApiError :=
  { status := 500, code := "ATTACHMENT_STORAGE_UNAVAILABLE"
    message := "Attachment storage is temporarily unavailable. Please try again.", requestId }

def reportNotFound (requestId : Uuid) : ApiError :=
  { status := 404, code := "REPORT_NOT_FOUND"
    message := "No report exists with the given id.", requestId }

def unsupportedContentType (requestId : Uuid) : ApiError :=
  { status := 400, code := "UNSUPPORTED_ATTACHMENT_CONTENT_TYPE"
    message := "This attachment content type is not supported.", requestId }

def prepareError (requestId : Uuid) : PrepareAttachmentError → ApiError
  | .invalid .zeroSize =>
      { status := 400, code := "INVALID_ATTACHMENT_SIZE"
        message := "size_bytes must be greater than zero.", requestId }
  | .invalid (.sizeExceedsLimit _) =>
      { status := 400, code := "ATTACHMENT_TOO_LARGE"
        message := "This attachment exceeds the size limit.", requestId }
  | .invalid _ =>
      { status := 400, code := "INVALID_ATTACHMENT"
        message := "The attachment metadata is invalid.", requestId }
  | .storage _ => storageUnavailable requestId

def listNotAuthorized (requestId : Uuid) : ApiError :=
  { status := 403, code := "NOT_AUTHORIZED"
    message := "Only an identified reviewer may list a report's attachments.", requestId }

def accessNotAuthorized (requestId : Uuid) : ApiError :=
  { status := 403, code := "NOT_AUTHORIZED"
    message := "Only an identified reviewer may access an attachment.", requestId }

def attachmentNotFound (requestId : Uuid) : ApiError :=
  { status := 404, code := "ATTACHMENT_NOT_FOUND"
    message := "No attachment exists with the given id.", requestId }

structure CreateAttachmentRequest where
  contentType : String
  sizeBytes : UInt64
  checksum : String

structure CreateAttachmentResponse where
  attachmentId : Uuid
  objectKey : String
  uploadUrl : String
  uploadExpiresInSeconds : Nat
  deriving DecidableEq, Repr

variable (storage : AttachmentStorage)

/-- Checks what was declared before the storage is asked for an address. -/
def prepareAttachmentUpload (fresh : Supply) (reportId : ReportId)
    (contentType : AttachmentContentType) (sizeBytes : UInt64) (checksum : String) :
    Handler (Except PrepareAttachmentError PreparedAttachmentUpload) := do
  let objectKey := attachmentObjectKey reportId (fresh 0)
  match Attachment.new (fresh 1) reportId storage.storageProvider objectKey contentType sizeBytes
      checksum with
  | .error error => return .error (.invalid error)
  | .ok attachment =>
      match ← askStorage (.createUploadUrl objectKey contentType) with
      | .error error => return .error (.storage error)
      | .ok upload => return .ok { attachment, upload }

def createAttachment (fresh : Supply) (headers : List (String × Bytes)) (reportId : ReportId)
    (request : CreateAttachmentRequest) (requestId : Uuid) : Handler CreateAttachmentResponse := do
  incident (Incidents.Reports.enforceRateLimit .attachmentUploadRequest headers requestId)
  let known ← orFail (persistenceFailed requestId) (.reportExists reportId)
  if known then
    match AttachmentContentType.fromMimeType request.contentType with
    | none => refuse (unsupportedContentType requestId)
    | some contentType =>
        match ← prepareAttachmentUpload storage fresh reportId contentType request.sizeBytes
            request.checksum with
        | .error error => refuse (prepareError requestId error)
        | .ok prepared => do
            orFail (persistenceFailed requestId) (.create prepared.attachment)
            return { attachmentId := prepared.attachment.id.uuid
                     objectKey := prepared.attachment.objectKey
                     uploadUrl := prepared.upload.url
                     uploadExpiresInSeconds := prepared.upload.expiresIn }
  else refuse (reportNotFound requestId)

structure AttachmentSummaryResponse where
  attachmentId : Uuid
  objectKey : String
  contentType : String
  sizeBytes : UInt64
  checksum : String
  deriving DecidableEq

def attachmentSummaryResponse (attachment : Attachment) : AttachmentSummaryResponse :=
  { attachmentId := attachment.id.uuid, objectKey := attachment.objectKey
    contentType := attachment.contentType.asMimeType, sizeBytes := attachment.sizeBytes
    checksum := attachment.checksum }

variable (verify : String → Option Incidents.VerifiedSession)

def listAttachmentsForReport (headers : List (String × Bytes)) (reportId : ReportId)
    (requestId : Uuid) : Handler (List AttachmentSummaryResponse) := do
  let actor ← incident (Incidents.Reviewer.actorFromHeaders verify headers requestId)
  match authorize actor .viewCase with
  | .error _ => refuse (listNotAuthorized requestId)
  | .ok () =>
      let attachments ← orFail (persistenceFailed requestId) (.findByReportId reportId)
      return attachments.map attachmentSummaryResponse

structure DownloadUrlResponse where
  downloadUrl : String
  expiresInSeconds : Nat
  deriving DecidableEq, Repr

/-- Two statements, and no transaction around them. -/
def recordDownloadAccess (auditEventId : Uuid) (attachmentId : AttachmentId) (actor : Actor)
    (requestId : Uuid) : Handler Unit := do
  let organizationId ← orFail (persistenceFailed requestId) (.organizationForActor actor.actorId)
  orFail (persistenceFailed requestId) (.insertDownloadAccess
    (PostgresAttachmentRepository.downloadAccessRow auditEventId actor organizationId attachmentId
      requestId))

def createDownloadUrl (fresh : Supply) (headers : List (String × Bytes))
    (attachmentId : AttachmentId) (requestId : Uuid) : Handler DownloadUrlResponse := do
  let actor ← incident (Incidents.Reviewer.actorFromHeaders verify headers requestId)
  match authorize actor .viewCase with
  | .error _ => refuse (accessNotAuthorized requestId)
  | .ok () =>
      match ← orFail (persistenceFailed requestId) (.findById attachmentId) with
      | none => refuse (attachmentNotFound requestId)
      | some attachment =>
          match ← askStorage (.createDownloadUrl attachment.objectKey) with
          | .error _ => refuse (storageUnavailable requestId)
          | .ok download => do
              recordDownloadAccess (fresh 2) attachment.id actor requestId
              return { downloadUrl := download.url, expiresInSeconds := download.expiresIn }

end SafeCameroon.Attachments
