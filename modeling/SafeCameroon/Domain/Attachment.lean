import SafeCameroon.Domain.Identifiers

namespace SafeCameroon

open Text

structure AttachmentId where
  uuid : Uuid
  deriving DecidableEq, Repr

inductive StorageProvider where
  | r2
  deriving DecidableEq, Repr

namespace StorageProvider

def asDatabaseValue : StorageProvider → String
  | .r2 => "R2"

def fromDatabaseValue (value : String) : Option StorageProvider :=
  if value = "R2" then some .r2 else none

@[simp] theorem from_as (provider : StorageProvider) :
    fromDatabaseValue provider.asDatabaseValue = some provider := by
  cases provider
  rfl

end StorageProvider

/-- The kinds of file that are accepted as evidence. -/
inductive AttachmentContentType where
  | imageJpeg
  | imagePng
  | imageWebp
  | applicationPdf
  | audioMpeg
  | audioOgg
  | videoMp4
  deriving DecidableEq, Repr

namespace AttachmentContentType

def asMimeType : AttachmentContentType → String
  | .imageJpeg => "image/jpeg"
  | .imagePng => "image/png"
  | .imageWebp => "image/webp"
  | .applicationPdf => "application/pdf"
  | .audioMpeg => "audio/mpeg"
  | .audioOgg => "audio/ogg"
  | .videoMp4 => "video/mp4"

def fromMimeType (value : String) : Option AttachmentContentType :=
  if value = "image/jpeg" then some .imageJpeg
  else if value = "image/png" then some .imagePng
  else if value = "image/webp" then some .imageWebp
  else if value = "application/pdf" then some .applicationPdf
  else if value = "audio/mpeg" then some .audioMpeg
  else if value = "audio/ogg" then some .audioOgg
  else if value = "video/mp4" then some .videoMp4
  else none

def asDatabaseValue : AttachmentContentType → String
  | .imageJpeg => "IMAGE_JPEG"
  | .imagePng => "IMAGE_PNG"
  | .imageWebp => "IMAGE_WEBP"
  | .applicationPdf => "APPLICATION_PDF"
  | .audioMpeg => "AUDIO_MPEG"
  | .audioOgg => "AUDIO_OGG"
  | .videoMp4 => "VIDEO_MP4"

def fromDatabaseValue (value : String) : Option AttachmentContentType :=
  if value = "IMAGE_JPEG" then some .imageJpeg
  else if value = "IMAGE_PNG" then some .imagePng
  else if value = "IMAGE_WEBP" then some .imageWebp
  else if value = "APPLICATION_PDF" then some .applicationPdf
  else if value = "AUDIO_MPEG" then some .audioMpeg
  else if value = "AUDIO_OGG" then some .audioOgg
  else if value = "VIDEO_MP4" then some .videoMp4
  else none

@[simp] theorem from_as (contentType : AttachmentContentType) :
    fromDatabaseValue contentType.asDatabaseValue = some contentType := by
  cases contentType <;> decide

end AttachmentContentType

def maxAttachmentSizeBytes : UInt64 := 25 * 1024 * 1024

inductive AttachmentError where
  | emptyObjectKey
  | emptyChecksum
  | zeroSize
  | sizeExceedsLimit (maxBytes : UInt64)
  deriving DecidableEq, Repr

/-- What is kept of a file that was attached to a report; the file itself lies with the storage. -/
structure Attachment where
  id : AttachmentId
  reportId : ReportId
  storageProvider : StorageProvider
  objectKey : String
  contentType : AttachmentContentType
  sizeBytes : UInt64
  checksum : String
  deriving DecidableEq

namespace Attachment

def new (drawn : Uuid) (reportId : ReportId) (storageProvider : StorageProvider)
    (objectKey : String) (contentType : AttachmentContentType) (sizeBytes : UInt64)
    (checksum : String) : Except AttachmentError Attachment :=
  if trim objectKey = "" then .error .emptyObjectKey
  else if trim checksum = "" then .error .emptyChecksum
  else if sizeBytes = 0 then .error .zeroSize
  else if sizeBytes > maxAttachmentSizeBytes then
    .error (.sizeExceedsLimit maxAttachmentSizeBytes)
  else .ok { id := ⟨drawn⟩, reportId, storageProvider, objectKey, contentType, sizeBytes, checksum }

structure Checked (attachment : Attachment) : Prop where
  objectKey : trim attachment.objectKey ≠ ""
  checksum : trim attachment.checksum ≠ ""
  positive : attachment.sizeBytes ≠ 0
  limited : attachment.sizeBytes ≤ maxAttachmentSizeBytes

theorem new_ok {drawn : Uuid} {reportId : ReportId} {storageProvider : StorageProvider}
    {objectKey : String} {contentType : AttachmentContentType} {sizeBytes : UInt64}
    {checksum : String} {attachment : Attachment}
    (made : new drawn reportId storageProvider objectKey contentType sizeBytes checksum =
      .ok attachment) :
    attachment = { id := ⟨drawn⟩, reportId, storageProvider, objectKey, contentType, sizeBytes
                   checksum } ∧ attachment.Checked := by
  unfold new at made
  split_ifs at made with key sum zero large
  obtain rfl := Except.ok.inj made
  exact ⟨rfl, key, sum, zero, by simpa using large⟩

end Attachment

end SafeCameroon
