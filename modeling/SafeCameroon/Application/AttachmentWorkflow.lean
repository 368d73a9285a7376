import SafeCameroon.Domain.Attachment

namespace SafeCameroon

/-- An address that grants access for so many seconds. -/
structure SignedUrl where
  url : String
  expiresIn : Nat
  deriving DecidableEq, Repr

structure StorageError where
  reason : String
  deriving DecidableEq, Repr

/-- What issues addresses of private objects. An address depends on the second it is issued in. -/
structure AttachmentStorage where
  storageProvider : StorageProvider
  createUploadUrl : Nat → String → AttachmentContentType → Except StorageError SignedUrl
  createDownloadUrl : Nat → String → Except StorageError SignedUrl

inductive PrepareAttachmentError where
  | invalid (error : AttachmentError)
  | storage (error : StorageError)
  deriving DecidableEq, Repr

structure PreparedAttachmentUpload where
  attachment : Attachment
  upload : SignedUrl
  deriving DecidableEq

def attachmentObjectKey (reportId : ReportId) (drawn : Uuid) : String :=
  "attachments/" ++ reportId.uuid.display ++ "/" ++ drawn.display

end SafeCameroon
