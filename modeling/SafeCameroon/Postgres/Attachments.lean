import SafeCameroon.Domain.Attachment
import SafeCameroon.Postgres.Schema

namespace SafeCameroon

open Table

/-- The columns of an enumerated type hold its labels. -/
structure AttachmentRow where
  id : AttachmentId
  reportId : ReportId
  storageProvider : String
  objectKey : String
  contentType : String
  sizeBytes : Int64
  checksum : String
  createdAt : Timestamp
  deriving DecidableEq

/-- The tables together with the one of attachments. -/
structure AttachmentStore where
  db : Db
  attachments : List AttachmentRow

def storageProviderLabels : List String := ["R2"]

def attachmentContentTypeLabels : List String :=
  ["IMAGE_JPEG", "IMAGE_PNG", "IMAGE_WEBP", "APPLICATION_PDF", "AUDIO_MPEG", "AUDIO_OGG", "VIDEO_MP4"]

def attachmentRow (now : Timestamp) (attachment : Attachment) : AttachmentRow :=
  { id := attachment.id, reportId := attachment.reportId
    storageProvider := attachment.storageProvider.asDatabaseValue
    objectKey := attachment.objectKey
    contentType := attachment.contentType.asDatabaseValue
    sizeBytes := attachment.sizeBytes.toInt64
    checksum := attachment.checksum, createdAt := now }

def AttachmentRow.constrained (row : AttachmentRow) : Bool :=
  decide (row.storageProvider ∈ storageProviderLabels) &&
    decide (row.contentType ∈ attachmentContentTypeLabels) &&
    !(row.objectKey.toList.all (· = ' ')) && !(row.checksum.toList.all (· = ' ')) &&
    decide (0 < row.sizeBytes)

def attachmentFromRow (row : AttachmentRow) : Except Failure Attachment := do
  let storageProvider ← expect
    "attachments.storage_provider is constrained by the storage_provider enum"
    (StorageProvider.fromDatabaseValue row.storageProvider)
  let contentType ← expect
    "attachments.content_type is constrained by the attachment_content_type enum"
    (AttachmentContentType.fromDatabaseValue row.contentType)
  return { id := row.id, reportId := row.reportId, storageProvider, objectKey := row.objectKey
           contentType, sizeBytes := row.sizeBytes.toUInt64, checksum := row.checksum }

namespace PostgresAttachmentRepository

def create (now : Timestamp) (attachment : Attachment) (store : AttachmentStore) :
    Except Failure (Ending AttachmentStore Unit) := do
  let row := attachmentRow now attachment
  if !row.constrained then .error .database
  else if row.reportId ∉ store.db.reports.map (·.id) then .error .database
  else if row.objectKey ∈ store.attachments.map (·.objectKey) then .error .database
  else
    let attachments ← insertUnique .database (·.id) row store.attachments
    return .commit () { store with attachments }

def findById (id : AttachmentId) (store : AttachmentStore) : Except Failure (Option Attachment) :=
  match lookup (·.id) id store.attachments with
  | none => .ok none
  | some row => (attachmentFromRow row).map some

def findByReportId (tie : Uuid → Nat) (reportId : ReportId) (store : AttachmentStore) :
    Except Failure (List Attachment) :=
  (orderBy (·.createdAt) (fun row => tie row.id.uuid)
    (store.attachments.filter fun row => row.reportId = reportId)).mapM attachmentFromRow

def downloadAccessRow (auditEventId : Uuid) (actor : Actor) (organizationId : Option OrganizationId)
    (attachmentId : AttachmentId) (requestId : Uuid) : AuditRow :=
  { id := auditEventId, actorType := actor.asDatabaseValue, actorId := actor.actorId, organizationId
    action := "ATTACHMENT_DOWNLOAD_URL_ISSUED", resourceType := "ATTACHMENT"
    resourceId := some attachmentId.uuid, requestId }

def insertDownloadAccess (row : AuditRow) (store : AttachmentStore) :
    Except Failure (Ending AttachmentStore Unit) := do
  let auditEvents ← insertUnique .database (·.id) row store.db.auditEvents
  return .commit () { store with db := { store.db with auditEvents } }

end PostgresAttachmentRepository

theorem attachmentFromRow_attachmentRow (now : Timestamp) (attachment : Attachment) :
    attachmentFromRow (attachmentRow now attachment) = .ok attachment := by
  simp [attachmentFromRow, attachmentRow, bind, Except.bind, pure, Except.pure]

theorem attachmentFromRow_constrained (row : AttachmentRow) (constrained : row.constrained = true) :
    ∃ attachment, attachmentFromRow row = .ok attachment := by
  simp only [AttachmentRow.constrained, Bool.and_eq_true, decide_eq_true_eq] at constrained
  obtain ⟨⟨⟨⟨provider, contentType⟩, _⟩, _⟩, _⟩ := constrained
  have stored : ∃ value, StorageProvider.fromDatabaseValue row.storageProvider = some value := by
    rw [List.mem_singleton.mp provider]
    exact ⟨.r2, rfl⟩
  have kind : ∃ value, AttachmentContentType.fromDatabaseValue row.contentType = some value := by
    have labels : ∀ label ∈ attachmentContentTypeLabels,
        (AttachmentContentType.fromDatabaseValue label).isSome = true := by decide
    exact Option.isSome_iff_exists.mp (labels _ contentType)
  obtain ⟨storageProvider, readProvider⟩ := stored
  obtain ⟨readable, readType⟩ := kind
  refine ⟨{ id := row.id, reportId := row.reportId, storageProvider, objectKey := row.objectKey
            contentType := readable, sizeBytes := row.sizeBytes.toUInt64, checksum := row.checksum }, ?_⟩
  simp only [attachmentFromRow, readProvider, readType, expect_some]
  rfl

theorem attachmentFromRow_columns {row : AttachmentRow} {attachment : Attachment}
    (read : attachmentFromRow row = .ok attachment) :
    attachment.id = row.id ∧ attachment.reportId = row.reportId ∧
      attachment.objectKey = row.objectKey := by
  simp only [attachmentFromRow, bind_ok, pure, Except.pure, Except.ok.injEq] at read
  obtain ⟨_, _, _, _, rfl⟩ := read
  exact ⟨rfl, rfl, rfl⟩

end SafeCameroon
