import SafeCameroon.Application.AlertWorkflow
import SafeCameroon.Postgres.Schema

namespace SafeCameroon

open Table

inductive AlertCreationOutcome where
  | created
  | duplicate (alertId : AlertId)
  deriving DecidableEq, Repr

inductive AlertCancelOutcome where
  | cancelled
  | conflict
  deriving DecidableEq, Repr

def alertFieldsFromRows (rows : List AlertFieldRow) : Except Failure (List AlertFieldValue) :=
  rows.mapM fun row => do
    let field ← expect "alert_fields.field is constrained by the alert_field enum"
      (AlertField.fromDatabaseValue row.field.asDatabaseValue)
    return { field, value := row.value }

def versionFromColumn (version : Int16) : Nat := (version.toInt % 2 ^ 32).toNat

def alertFromRow (row : AlertRow) (fields : List AlertFieldValue) : Except Failure Alert := do
  let incidentType ← expect "alerts.incident_type is constrained by the incident_type enum"
    (IncidentType.fromDatabaseValue row.incidentType.asDatabaseValue)
  let severity ← expect "alerts.severity is constrained by the severity_level enum"
    (Severity.fromDatabaseValue row.severity.asDatabaseValue)
  let visibility ← expect "alerts.visibility is constrained by the alert_visibility enum"
    (AlertVisibility.fromDatabaseValue row.visibility.asDatabaseValue)
  let trigger ← expect "alerts.trigger is constrained by the case_event_type enum"
    (CaseEventType.fromDatabaseValue row.trigger.asDatabaseValue)
  let targetGeography ← expect "a persisted target_geography was validated as non-blank on write"
    (TargetGeography.new row.targetGeography).toOption
  let status ← expect "alerts.status is constrained by the alert_status enum"
    (AlertStatus.fromDatabaseValue row.status.asDatabaseValue)
  return { id := row.id, caseId := row.caseId, policyId := row.policyId
           policyVersion := versionFromColumn row.policyVersion
           incidentType, severity, visibility, trigger
           targetGeography, status, fields, version := row.aggregateVersion
           issuedByOrganizationId := row.issuedByOrganizationId }

def insertAlertEvent (event : AlertEvent) (actor : Actor) (db : Db) : Except Failure Db := do
  let row : AlertEventRow :=
    { id := event.id, alertId := event.alertId, eventType := event.eventType
      aggregateVersion := event.aggregateVersion
      actorType := actor.asDatabaseValue, actorId := actor.actorId }
  let _ ← insertUnique .database (fun row => (row.alertId, row.aggregateVersion)) row db.alertEvents
  let alertEvents ← insertUnique .database (·.id) row db.alertEvents
  return { db with alertEvents }

/-- The version of the policy is written `as i16`, which keeps its last sixteen bits. -/
def alertRow (creation : AlertCreation) : AlertRow :=
  let alert := creation.alert
  { id := alert.id, caseId := alert.caseId, policyId := alert.policyId
    policyVersion := Int16.ofNat alert.policyVersion, incidentType := alert.incidentType
    severity := alert.severity, visibility := alert.visibility, trigger := alert.trigger
    targetGeography := alert.targetGeography.text, status := alert.status
    aggregateVersion := alert.version, idempotencyKeyHash := creation.idempotencyKeyHash
    issuedByOrganizationId := alert.issuedByOrganizationId }

/-- The `CHECK` constraints of the table, which come before any look at the keys. -/
def AlertRow.admissible (row : AlertRow) : Bool :=
  !row.policyId.toList.all (· = ' ') && decide (0 < row.policyVersion) &&
    !row.targetGeography.toList.all (· = ' ') && decide (0 < row.aggregateVersion)

def addAlertRow (db : Db) (row : AlertRow) (alerts : List AlertRow) :
    Except Failure (List AlertRow) :=
  if row.caseId ∉ db.cases.map (·.id) then .error .database
  else if row.issuedByOrganizationId.any fun id => id ∉ db.organizations.map (·.id) then
    .error .database
  else insertUnique .database (·.id) row alerts

/-- Adds the alert unless its idempotency key is taken: the id of the other alert that has it. -/
def insertAlert (creation : AlertCreation) (db : Db) : Except Failure (Option AlertId × Db) := do
  if (alertRow creation).admissible then
    let (existing, alerts) ← Keyed.insert (·.idempotencyKeyHash) (·.id) (addAlertRow db)
      (alertRow creation) db.alerts
    return (existing, { db with alerts })
  else .error .database

/-- A value of spaces only, or the identity of the reporter, fails a check of the table. -/
def insertAlertFields (alertId : AlertId) : List AlertFieldValue → Db → Except Failure Db
  | [], db => .ok db
  | field :: fields, db => do
      let row : AlertFieldRow := { alertId, field := field.field, value := field.value }
      if row.value.toList.all (· = ' ') || row.field.isForbidden then .error .database
      else
        let alertFields ← insertUnique .database (fun row => (row.alertId, row.field)) row
          db.alertFields
        insertAlertFields alertId fields { db with alertFields }

namespace PostgresAlertRepository

def findById (tie : AlertFieldRow → Nat) (alertId : AlertId) (db : Db) :
    Except Failure (Option Alert) :=
  match lookup (·.id) alertId db.alerts with
  | none => .ok none
  | some row => do
      let rows := orderBy (fun _ => 0) tie (db.alertFields.filter fun row => row.alertId = alertId)
      let fields ← alertFieldsFromRows rows
      let alert ← alertFromRow row fields
      return some alert

def create (now : Timestamp) (creation : AlertCreation) (db : Db) :
    Except Failure (Ending Db AlertCreationOutcome) := do
  let (duplicate, db) ← insertAlert creation db
  match duplicate with
  | some alertId => return .rollback (.duplicate alertId)
  | none =>
      let db ← insertAlertFields creation.alert.id creation.alert.fields db
      let db ← insertAlertEvent creation.event creation.actor db
      let db ← insertAuditEvent "ALERT" creation.auditEventId creation.actor
        creation.event.eventType.asDatabaseValue creation.alert.id.uuid creation.requestId db
      let db ← insertOutboxEvent now "ALERT" creation.outboxEventId creation.alert.id.uuid
        creation.event.eventType.asDatabaseValue (alertCreatedEventPayload creation) db
      return .commit .created db

def cancel (now : Timestamp) (alert : Alert) (cancellation : AlertCancellation) (db : Db) :
    Except Failure (Ending Db AlertCancelOutcome) := do
  let selected := fun row : AlertRow =>
    decide (row.id = alert.id) && decide (row.aggregateVersion + 1 = alert.version)
  let change := fun row : AlertRow =>
    { row with status := alert.status, aggregateVersion := alert.version }
  if db.alerts.countP selected = 1 then
    let db := { db with alerts := updateWhere selected change db.alerts }
    let db ← insertAlertEvent cancellation.event cancellation.actor db
    let db ← insertAuditEvent "ALERT" cancellation.auditEventId cancellation.actor
      cancellation.event.eventType.asDatabaseValue alert.id.uuid cancellation.requestId db
    let db ← insertOutboxEvent now "ALERT" cancellation.outboxEventId alert.id.uuid
      cancellation.event.eventType.asDatabaseValue (alertCancelledEventPayload alert cancellation) db
    return .commit .cancelled db
  else return .rollback .conflict

end PostgresAlertRepository

end SafeCameroon
