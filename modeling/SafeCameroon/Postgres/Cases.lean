import SafeCameroon.Postgres.Schema

namespace SafeCameroon

open Table

inductive CaseCreationOutcome where
  | created
  | reportAlreadyLinked
  deriving DecidableEq, Repr

inductive CaseLinkOutcome where
  | linked
  | reportAlreadyLinked
  | conflict
  deriving DecidableEq, Repr

inductive CaseReviewOutcome where
  | applied
  | conflict
  deriving DecidableEq, Repr

def insertCase (c : Case) (db : Db) : Except Failure Db := do
  let row : CaseRow :=
    { id := c.id, incidentType := c.incidentType, status := c.status, aggregateVersion := c.version }
  let cases ← insertUnique .database (·.id) row db.cases
  return { db with cases }

/-- None when the report has a link already: the violation of a unique key, which the caller turns
into an outcome of its own. -/
def insertCaseReportLink (now : Timestamp) (caseId : CaseId) (reportId : ReportId) (db : Db) :
    Except Failure (Option Db) :=
  if reportId ∈ db.caseReports.map (·.reportId) then .ok none
  else if caseId ∉ db.cases.map (·.id) ∨ reportId ∉ db.reports.map (·.id) then .error .database
  else .ok (some { db with
    caseReports := db.caseReports ++ [{ caseId, reportId, linkedAt := now }] })

def markReportLinkedToCase (reportId : ReportId) (db : Db) : Db :=
  let reports := updateWhere (fun row : ReportRow => decide (row.id = reportId))
    (fun row => { row with status := .linkedToCase }) db.reports
  { db with reports }

def advanceCaseVersion (caseId : CaseId) (newStatus : Option CaseStatus) (newVersion : Nat)
    (db : Db) : Option Db :=
  let selected := fun row : CaseRow =>
    decide (row.id = caseId) && decide (row.aggregateVersion + 1 = newVersion)
  let change := fun row : CaseRow =>
    { row with status := newStatus.getD row.status, aggregateVersion := newVersion }
  if db.cases.countP selected = 1 then
    some { db with cases := updateWhere selected change db.cases }
  else none

def insertCaseEvent (event : CaseEvent) (actor : Actor) (db : Db) : Except Failure Db := do
  let row : CaseEventRow :=
    { id := event.id, caseId := event.caseId, eventType := event.eventType
      aggregateVersion := event.aggregateVersion
      actorType := actor.asDatabaseValue, actorId := actor.actorId }
  if row.caseId ∉ db.cases.map (·.id) then .error .database
  else
    let _ ← insertUnique .database (fun row => (row.caseId, row.aggregateVersion)) row db.caseEvents
    let caseEvents ← insertUnique .database (·.id) row db.caseEvents
    return { db with caseEvents }

namespace PostgresCaseRepository

def findRow (caseId : CaseId) (db : Db) : Option CaseRow := lookup (·.id) caseId db.cases

/-- The second query of `find_by_id`, which sees the tables as they are by then. -/
def findReports (tie : Uuid → Nat) (caseId : CaseId) (db : Db) : List ReportId :=
  (orderBy (·.linkedAt) (fun row => tie row.reportId.uuid)
    (db.caseReports.filter fun row => row.caseId = caseId)).map (·.reportId)

/-- The case that `find_by_id` builds from the answers of its two queries. -/
def reconstitute (row : CaseRow) (reportIds : List ReportId) : Except Failure Case := do
  let incidentType ← expect "cases.incident_type is constrained by the incident_type enum"
    (IncidentType.fromDatabaseValue row.incidentType.asDatabaseValue)
  let status ← expect "cases.status is constrained by the case_status enum"
    (CaseStatus.fromDatabaseValue row.status.asDatabaseValue)
  return { id := row.id, incidentType, status, reportIds, version := row.aggregateVersion }

def create (now : Timestamp) (creation : CaseCreation) (db : Db) :
    Except Failure (Ending Db CaseCreationOutcome) := do
  let reportId ← expect "a freshly created case always has exactly one report"
    creation.case.reportIds.head?
  let db ← insertCase creation.case db
  match ← insertCaseReportLink now creation.case.id reportId db with
  | none => return .rollback .reportAlreadyLinked
  | some db =>
      let db := markReportLinkedToCase reportId db
      let db ← insertCaseEvent creation.event creation.actor db
      let db ← insertAuditEvent "CASE" creation.auditEventId creation.actor
        creation.event.eventType.asDatabaseValue creation.case.id.uuid creation.requestId db
      let db ← insertOutboxEvent now "CASE" creation.outboxEventId creation.case.id.uuid
        creation.event.eventType.asDatabaseValue (caseCreatedEventPayload creation) db
      return .commit .created db

/-- The link and the report's status are written before the version of the case is checked; a
conflict rolls both back. -/
def linkReport (now : Timestamp) (c : Case) (link : CaseReportLink) (db : Db) :
    Except Failure (Ending Db CaseLinkOutcome) := do
  match ← insertCaseReportLink now c.id link.reportId db with
  | none => return .rollback .reportAlreadyLinked
  | some db =>
      let db := markReportLinkedToCase link.reportId db
      match advanceCaseVersion c.id none c.version db with
      | none => return .rollback .conflict
      | some db =>
          let db ← insertCaseEvent link.event link.actor db
          let db ← insertAuditEvent "CASE" link.auditEventId link.actor
            link.event.eventType.asDatabaseValue c.id.uuid link.requestId db
          let db ← insertOutboxEvent now "CASE" link.outboxEventId c.id.uuid
            link.event.eventType.asDatabaseValue (caseReportLinkedEventPayload c.id link) db
          return .commit .linked db

def applyReview (now : Timestamp) (c : Case) (review : CaseReview) (db : Db) :
    Except Failure (Ending Db CaseReviewOutcome) := do
  match advanceCaseVersion c.id (some c.status) c.version db with
  | none => return .rollback .conflict
  | some db =>
      let db ← insertCaseEvent review.event review.actor db
      let db ← insertAuditEvent "CASE" review.auditEventId review.actor
        review.event.eventType.asDatabaseValue c.id.uuid review.requestId db
      let db ← insertOutboxEvent now "CASE" review.outboxEventId c.id.uuid
        review.event.eventType.asDatabaseValue (caseStatusChangedEventPayload c review) db
      return .commit .applied db

end PostgresCaseRepository

end SafeCameroon
