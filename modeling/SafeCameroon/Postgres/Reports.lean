import SafeCameroon.Application.Reporting
import SafeCameroon.Postgres.Schema

namespace SafeCameroon

open Table

inductive SubmissionResult where
  | created
  | duplicate (reportId : ReportId)
  deriving DecidableEq, Repr

def reportRow (submission : AnonymousReportSubmission) : ReportRow :=
  { id := submission.report.id, sourceChannel := submission.report.sourceChannel
    rawContent := submission.report.rawContent, status := .received
    followUpTokenHash := submission.referenceCodeHash
    idempotencyKeyHash := submission.idempotencyKeyHash
    reportedIncidentType := submission.report.reportedIncidentType }

def addReportRow (row : ReportRow) (reports : List ReportRow) : Except Failure (List ReportRow) :=
  if row.rawContent.toList.all (· = ' ') then .error .database
  else do
    let _ ← insertUnique .database (·.followUpTokenHash) row reports
    insertUnique .database (·.id) row reports

/-- Adds the report unless its idempotency key is taken: the id of the other report that has it. -/
def insertReport (submission : AnonymousReportSubmission) (db : Db) :
    Except Failure (Option ReportId × Db) := do
  let (existing, reports) ← Keyed.insert (·.idempotencyKeyHash) (·.id) addReportRow
    (reportRow submission) db.reports
  return (existing, { db with reports })

def insertReportAuditEvent (submission : AnonymousReportSubmission) (db : Db) :
    Except Failure Db := do
  let row : AuditRow :=
    { id := submission.auditEventId, actorType := "ANONYMOUS_REPORTER", actorId := none
      organizationId := none, action := "REPORT_SUBMITTED", resourceType := "REPORT"
      resourceId := some submission.report.id.uuid, requestId := submission.requestId }
  let auditEvents ← insertUnique .database (·.id) row db.auditEvents
  return { db with auditEvents }

namespace PostgresReportRepository

def submitAnonymous (now : Timestamp) (submission : AnonymousReportSubmission) (db : Db) :
    Except Failure (Ending Db SubmissionResult) := do
  let (duplicate, db) ← insertReport submission db
  match duplicate with
  | some reportId => return .rollback (.duplicate reportId)
  | none =>
      let db ← insertReportAuditEvent submission db
      let db ← insertOutboxEvent now "REPORT" submission.outboxEventId submission.report.id.uuid
        "REPORT_SUBMITTED" (reportSubmittedEventPayload submission) db
      return .commit .created db

def findById (reportId : ReportId) (db : Db) : Option ReportRow := lookup (·.id) reportId db.reports

/-- Takes a report under review unless it has moved on; true when it did. -/
def markUnderReview (reportId : ReportId) (db : Db) : Except Failure (Ending Db Bool) :=
  let selected := fun row : ReportRow =>
    decide (row.id = reportId) && decide (row.status = .received)
  let reports := updateWhere selected (fun row => { row with status := .underReview }) db.reports
  .ok (.commit (decide (0 < db.reports.countP selected)) { db with reports })

end PostgresReportRepository

end SafeCameroon
