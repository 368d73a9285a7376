import SafeCameroon.Domain.Consumer
import SafeCameroon.Postgres.AuditEvents
import SafeCameroon.Postgres.Alerts
import SafeCameroon.Postgres.Organizations
import SafeCameroon.Postgres.Subscribers

namespace SafeCameroon

open Table

structure ReviewerRow where
  id : Uuid
  email : String
  deriving DecidableEq, Repr

/-- The tables of reports, cases and alerts with those of accounts, and with the columns that only
managing accounts or reading alerts looks at. -/
structure Registry where
  tables : Db
  reviewers : List ReviewerRow
  managementTokenHashes : List (ConsumerId × Bytes)
  alertCreatedAt : AlertId → Timestamp

inductive CreateReviewerOutcome where
  | created
  | emailAlreadyRegistered
  deriving DecidableEq, Repr

namespace PostgresReviewerRepository

abbrev Lower := String → String

def count (registry : Registry) : Nat := registry.reviewers.length

/-- Emails are unique without regard to case, and a blank one fails the check of its column. -/
def create (lower : Lower) (id : Uuid) (email : String) (registry : Registry) :
    Except Failure (Ending Registry CreateReviewerOutcome) :=
  if email.toList.all (· = ' ') then .error .database
  else if registry.reviewers.any fun row => row.id = id || lower row.email = lower email then
    .ok (.rollback .emailAlreadyRegistered)
  else .ok (.commit .created { registry with reviewers := registry.reviewers ++ [{ id, email }] })

def findByEmail (lower : Lower) (email : String) (registry : Registry) : Option Uuid :=
  (registry.reviewers.find? fun row => lower row.email = lower email).map (·.id)

def recordAuditEvent (auditEventId : Uuid) (actor : Actor) (action : String)
    (resourceId : Option Uuid) (requestId : Uuid) (db : Db) : Except Failure (Ending Db Unit) := do
  let row : AuditRow :=
    { id := auditEventId, actorType := actor.asDatabaseValue, actorId := actor.actorId
      organizationId := organizationIdForActor actor.actorId db, action
      resourceType := "REVIEWER", resourceId, requestId }
  let auditEvents ← insertUnique .database (·.id) row db.auditEvents
  return .commit () { db with auditEvents }

theorem recordAuditEvent_error {auditEventId : Uuid} {actor : Actor} {action : String}
    {resourceId : Option Uuid} {requestId : Uuid} {db : Db} {error : Failure}
    (h : recordAuditEvent auditEventId actor action resourceId requestId db = .error error) :
    error = .database := by
  simp only [recordAuditEvent, bind_error, pure, Except.pure, reduceCtorEq, and_false, exists_false,
    or_false] at h
  exact insertUnique_error _ _ _ _ _ h

end PostgresReviewerRepository

namespace PostgresConsumerRepository

def createWithManagementToken (consumer : Consumer) (managementTokenHash : Bytes)
    (registry : Registry) : Except Failure (Ending Registry Unit) := do
  let row : ConsumerRow := { id := consumer.id, locale := consumer.locale }
  let consumers ← insertUnique .database (·.id) row registry.tables.consumers
  return .commit () { registry with
    tables := { registry.tables with consumers }
    managementTokenHashes := registry.managementTokenHashes ++ [(consumer.id, managementTokenHash)] }

def managementTokenHash (consumerId : ConsumerId) (registry : Registry) : Option Bytes :=
  (lookup (·.1) consumerId registry.managementTokenHashes).map (·.2)

end PostgresConsumerRepository

/-- What an alert listing may be narrowed by. -/
structure AlertFilter where
  status : Option AlertStatus
  visibility : Option AlertVisibility
  deriving DecidableEq, Repr

def AlertFilter.admits (filter : AlertFilter) (row : AlertRow) : Bool :=
  filter.status.all (fun status => row.status = status) &&
    filter.visibility.all fun visibility => row.visibility = visibility

namespace PostgresAlertRepository

/-- The alerts of a filter, the most recent first, and those of one instant by falling id. -/
def ordered (filter : AlertFilter) (registry : Registry) : List AlertRow :=
  (orderBy (fun row => registry.alertCreatedAt row.id) (fun row => row.id.uuid.val)
    (registry.tables.alerts.filter filter.admits)).reverse

def fieldsByAlert : List AlertFieldRow → (AlertId → List AlertFieldValue) →
    Except Failure (AlertId → List AlertFieldValue)
  | [], fields => .ok fields
  | row :: rows, fields => do
      let field ← expect "alert_fields.field is constrained by the alert_field enum"
        (AlertField.fromDatabaseValue row.field.asDatabaseValue)
      fieldsByAlert rows
        (Function.update fields row.alertId (fields row.alertId ++ [{ field, value := row.value }]))

def alertsFromRows : List AlertRow → (AlertId → List AlertFieldValue) → Except Failure (List Alert)
  | [], _ => .ok []
  | row :: rows, fields => do
      let alert ← alertFromRow row (fields row.id)
      let alerts ← alertsFromRows rows (Function.update fields row.id [])
      return alert :: alerts

def list (tie : AlertFieldRow → Nat) (filter : AlertFilter) (limit offset : Nat)
    (registry : Registry) : Except Failure (List Alert) := do
  let rows := ((ordered filter registry).drop offset).take limit
  if rows.isEmpty then return []
  let fieldRows := orderBy (fun _ => 0) tie
    (registry.tables.alertFields.filter fun field => decide (field.alertId ∈ rows.map (·.id)))
  let fields ← fieldsByAlert fieldRows fun _ => []
  alertsFromRows rows fields

end PostgresAlertRepository

end SafeCameroon
