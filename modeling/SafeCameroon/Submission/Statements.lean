import SafeCameroon.Aggregate.CaseEffects
import SafeCameroon.Library.ReadCommitted

namespace SafeCameroon.Submission

open Table Process ReadCommitted

inductive Row where
  | report (row : ReportRow)
  | alert (row : AlertRow)
  | alertField (row : AlertFieldRow)
  | alertEvent (row : AlertEventRow)
  | audit (row : AuditRow)
  | outbox (row : OutboxRow)

/-- The entries of the unique indexes on their tables. The index of the keys of reports, and that of
the keys of alerts, is partial: it leaves out the rows without a key. -/
inductive Entry where
  | reportId (id : ReportId)
  | reportToken (hash : List UInt8)
  | reportKey (hash : List UInt8)
  | alertId (id : AlertId)
  | alertKey (hash : List UInt8)
  | alertField (alertId : AlertId) (field : AlertField)
  | alertVersion (alertId : AlertId) (version : Nat)
  | alertEvent (id : Uuid)
  | audit (id : Uuid)
  | outbox (id : Uuid)
  deriving DecidableEq

namespace Row

def apply (db : Db) : Row → Db
  | .report row => { db with reports := db.reports ++ [row] }
  | .alert row => { db with alerts := db.alerts ++ [row] }
  | .alertField row => { db with alertFields := db.alertFields ++ [row] }
  | .alertEvent row => { db with alertEvents := db.alertEvents ++ [row] }
  | .audit row => { db with auditEvents := db.auditEvents ++ [row] }
  | .outbox row => { db with outboxEvents := db.outboxEvents ++ [row] }

def entries : Row → List Entry
  | .report row => [.reportId row.id, .reportToken row.followUpTokenHash] ++
      row.idempotencyKeyHash.toList.map .reportKey
  | .alert row => [.alertId row.id] ++ row.idempotencyKeyHash.toList.map .alertKey
  | .alertField row => [.alertField row.alertId row.field]
  | .alertEvent row => [.alertVersion row.alertId row.aggregateVersion, .alertEvent row.id]
  | .audit row => [.audit row.id]
  | .outbox row => [.outbox row.id]

end Row

def index (db : Db) : List Entry :=
  db.reports.flatMap (fun row => (Row.report row).entries) ++
    db.alerts.flatMap (fun row => (Row.alert row).entries) ++
    db.alertFields.flatMap (fun row => (Row.alertField row).entries) ++
    db.alertEvents.flatMap (fun row => (Row.alertEvent row).entries) ++
    db.auditEvents.flatMap (fun row => (Row.audit row).entries) ++
    db.outboxEvents.flatMap (fun row => (Row.outbox row).entries)

/-- The statements, named after what they write or look for. -/
inductive Statement where
  | insertReport (row : ReportRow)
  | findReportByKey (hash : List UInt8)
  | insertReportAuditEvent (submission : AnonymousReportSubmission)
  | insertAlert (row : AlertRow)
  | findAlertByKey (hash : List UInt8)
  | insertAlertField (row : AlertFieldRow)
  | insertAlertEvent (event : AlertEvent) (actor : Actor)
  | insertAuditEvent (resourceType : String) (auditEventId : Uuid) (actor : Actor)
      (action : String) (resourceId requestId : Uuid)
  | insertOutboxEvent (now : Timestamp) (aggregateType : String) (outboxEventId aggregateId : Uuid)
      (eventType : String) (payload : Json)

@[reducible] def Statement.Answer : Statement → Type
  | .findReportByKey _ => Option ReportId
  | .findAlertByKey _ => Option AlertId
  | _ => Unit

def insertRow (checked : Bool) (row : Row) (db : Db) : Except Failure (Unit × List Row) :=
  if checked && row.entries.all fun entry => entry ∉ index db then .ok ((), [row])
  else .error .database

def exec : (statement : Statement) → Db → Except Failure (statement.Answer × List Row)
  | .insertReport row, db =>
      if Keyed.taken (·.idempotencyKeyHash) row db.reports then .ok ((), [])
      else insertRow (!row.rawContent.toList.all (· = ' ')) (.report row) db
  | .findReportByKey hash, db => .ok (Keyed.idByKey (·.idempotencyKeyHash) (·.id) hash db.reports, [])
  | .insertReportAuditEvent submission, db => insertRow true (.audit (reportAuditRow submission)) db
  | .insertAlert row, db =>
      if !row.admissible then .error .database
      else if Keyed.taken (·.idempotencyKeyHash) row db.alerts then .ok ((), [])
      else insertRow (decide (row.caseId ∈ db.cases.map (·.id)) &&
        !row.issuedByOrganizationId.any fun id => id ∉ db.organizations.map (·.id)) (.alert row) db
  | .findAlertByKey hash, db => .ok (Keyed.idByKey (·.idempotencyKeyHash) (·.id) hash db.alerts, [])
  | .insertAlertField row, db =>
      insertRow (!(row.value.toList.all (· = ' ') || row.field.isForbidden)) (.alertField row) db
  | .insertAlertEvent event actor, db => insertRow true (.alertEvent (alertEventRow event actor)) db
  | .insertAuditEvent resourceType auditEventId actor action resourceId requestId, db =>
      insertRow true
        (.audit (auditRow resourceType auditEventId actor action resourceId requestId db)) db
  | .insertOutboxEvent now aggregateType outboxEventId aggregateId eventType payload, db =>
      insertRow true
        (.outbox (outboxRow now aggregateType outboxEventId aggregateId eventType payload)) db

@[reducible] def schema : Schema where
  Store := Db
  Write := Row
  Entry := Entry
  Statement := Statement
  Answer := Statement.Answer
  Error := Failure
  apply := Row.apply
  entries := Row.entries
  exec := exec

def settled : (statement : Statement) → statement.Answer → Prop
  | .findReportByKey _, found => found ≠ none
  | .findAlertByKey _, found => found ≠ none
  | .insertReport _, _ => True
  | .insertReportAuditEvent _, _ => True
  | .insertAlert _, _ => True
  | .insertAlertField _, _ => True
  | .insertAlertEvent _ _, _ => True
  | .insertAuditEvent _ _ _ _ _ _, _ => True
  | .insertOutboxEvent _ _ _ _ _ _, _ => True

abbrev Transaction := Proc (interface schema) Failure

def begin : Transaction Unit := Proc.perform (I := interface schema) .begin id

def run (statement : Statement) : Transaction statement.Answer :=
  Proc.perform (I := interface schema) (.run statement) id

def commit : Transaction Unit := Proc.perform (I := interface schema) .commit id

def rollback : Transaction Unit := Proc.perform (I := interface schema) .rollback id

def insertReport (submission : AnonymousReportSubmission) : Transaction (Option ReportId) := do
  run (.insertReport (reportRow submission))
  match submission.idempotencyKeyHash with
  | none => return none
  | some hash =>
      let existing ← run (.findReportByKey hash)
      if existing ≠ some submission.report.id then return existing else return none

def submitAnonymous (now : Timestamp) (submission : AnonymousReportSubmission) :
    Transaction SubmissionResult := do
  begin
  match ← insertReport submission with
  | some reportId =>
      rollback
      return .duplicate reportId
  | none =>
      run (.insertReportAuditEvent submission)
      run (.insertOutboxEvent now "REPORT" submission.outboxEventId submission.report.id.uuid
        "REPORT_SUBMITTED" (reportSubmittedEventPayload submission))
      commit
      return .created

def insertAlert (creation : AlertCreation) : Transaction (Option AlertId) := do
  run (.insertAlert (alertRow creation))
  match creation.idempotencyKeyHash with
  | none => return none
  | some hash =>
      let existing ← run (.findAlertByKey hash)
      if existing ≠ some creation.alert.id then return existing else return none

def insertAlertFields (alertId : AlertId) (fields : List AlertFieldValue) : Transaction Unit :=
  Proc.forEach (fun field =>
    run (.insertAlertField { alertId, field := field.field, value := field.value })) fields

def create (now : Timestamp) (creation : AlertCreation) : Transaction AlertCreationOutcome := do
  begin
  match ← insertAlert creation with
  | some alertId =>
      rollback
      return .duplicate alertId
  | none =>
      insertAlertFields creation.alert.id creation.alert.fields
      run (.insertAlertEvent creation.event creation.actor)
      run (.insertAuditEvent "ALERT" creation.auditEventId creation.actor
        creation.event.eventType.asDatabaseValue creation.alert.id.uuid creation.requestId)
      run (.insertOutboxEvent now "ALERT" creation.outboxEventId creation.alert.id.uuid
        creation.event.eventType.asDatabaseValue (alertCreatedEventPayload creation))
      commit
      return .created

end SafeCameroon.Submission
