import SafeCameroon.Domain.Report
import SafeCameroon.Library.Json

namespace SafeCameroon

open Text

def maxReportContentChars : Nat := 10000

/-- A report with everything its submission writes. Only the digest of the reference code is stored. -/
structure AnonymousReportSubmission where
  report : AnonymousReport
  referenceCode : String
  referenceCodeHash : List UInt8
  idempotencyKeyHash : Option (List UInt8)
  auditEventId : Uuid
  outboxEventId : Uuid
  requestId : Uuid
  deriving DecidableEq

inductive ReportValidationError where
  | emptyContent
  | contentTooLong
  deriving DecidableEq, Repr

/-- Builds a submission; `sha256` is the digest of a text's UTF-8 bytes. -/
def prepareAnonymousReport (sha256 : String → List UInt8) (fresh : Supply) (rawContent : String)
    (requestId : Uuid) (idempotencyKey : Option String) (reportedIncidentType : Option IncidentType) :
    Except ReportValidationError AnonymousReportSubmission :=
  let normalizedContent := trim rawContent
  if normalizedContent = "" then .error .emptyContent
  else if normalizedContent.length > maxReportContentChars then .error .contentTooLong
  else
    let referenceCode := "SC-" ++ Uuid.display (fresh 0)
    .ok
      { report :=
          { id := ⟨fresh 1⟩, sourceChannel := .web, rawContent := normalizedContent
            reportedIncidentType }
        referenceCode
        referenceCodeHash := sha256 referenceCode
        idempotencyKeyHash := idempotencyKey.map sha256
        auditEventId := fresh 2, outboxEventId := fresh 3, requestId }

theorem prepareAnonymousReport_ok (sha256 : String → List UInt8) (fresh : Supply)
    (rawContent : String) (requestId : Uuid) (idempotencyKey : Option String)
    (reportedIncidentType : Option IncidentType) (submission : AnonymousReportSubmission)
    (h : prepareAnonymousReport sha256 fresh rawContent requestId idempotencyKey
      reportedIncidentType = .ok submission) :
    submission.requestId = requestId ∧
      submission.idempotencyKeyHash = idempotencyKey.map sha256 := by
  simp only [prepareAnonymousReport] at h
  split at h
  · simp at h
  · split at h
    · simp at h
    · rw [← Except.ok.inj h]
      exact ⟨rfl, rfl⟩

def reportSubmittedEventPayload (submission : AnonymousReportSubmission) : Json :=
  .object
    [("report_id", .uuid submission.report.id.uuid),
     ("source_channel", .string submission.report.sourceChannel.asDatabaseValue)]

end SafeCameroon
