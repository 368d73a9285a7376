import SafeCameroon.Application.DeliveryWorkflow
import SafeCameroon.Domain.Organization
import SafeCameroon.Domain.Report
import SafeCameroon.Library.Keyed

namespace SafeCameroon

/-- Why a repository call did not answer: an error of the database, or a failed `expect`. -/
inductive Failure where
  | database
  | panic (message : String)
  deriving DecidableEq, Repr

def expect {α : Type} (message : String) : Option α → Except Failure α
  | some value => .ok value
  | none => .error (.panic message)

@[simp] theorem expect_some {α : Type} (message : String) (value : α) :
    expect message (some value) = .ok value := rfl

abbrev Timestamp := Nat

def microseconds (seconds : Nat) : Timestamp := 1000000 * seconds

structure DeliveryRow where
  id : DeliveryId
  alertId : AlertId
  consumerId : ConsumerId
  channel : ChannelType
  endpointAddress : String
  tier : Nat
  idempotencyKeyHash : Bytes
  matchingSubscriptions : Json
  status : DeliveryStatus
  attemptCount : Nat
  maxAttempts : Nat
  aggregateVersion : Nat
  createdAt : Timestamp
  updatedAt : Timestamp
  nextAttemptAt : Option Timestamp

inductive AttemptOutcomeColumn where
  | sent
  | failed
  deriving DecidableEq, Repr

structure DeliveryAttemptRow where
  id : Uuid
  deliveryId : DeliveryId
  attemptNumber : Nat
  outcome : AttemptOutcomeColumn
  providerMessageId : Option String
  retryable : Option Bool
  failureReason : Option String
  deriving DecidableEq, Repr

structure DeliveryEventRow where
  id : Uuid
  deliveryId : DeliveryId
  eventType : DeliveryEventType
  aggregateVersion : Nat
  actorType : String
  actorId : Option Uuid
  deriving DecidableEq, Repr

structure OutboxRow where
  id : Uuid
  aggregateType : String
  aggregateId : Uuid
  eventType : String
  payload : Json
  createdAt : Timestamp
  publishedAt : Option Timestamp
  claimedAt : Option Timestamp

structure AuditRow where
  id : Uuid
  actorType : String
  actorId : Option Uuid
  organizationId : Option OrganizationId
  action : String
  resourceType : String
  resourceId : Option Uuid
  requestId : Uuid
  deriving DecidableEq, Repr

structure AlertRow where
  id : AlertId
  caseId : CaseId
  policyId : String
  policyVersion : Int16
  incidentType : IncidentType
  severity : Severity
  visibility : AlertVisibility
  trigger : CaseEventType
  targetGeography : String
  status : AlertStatus
  aggregateVersion : Nat
  idempotencyKeyHash : Option Bytes
  issuedByOrganizationId : Option OrganizationId
  deriving DecidableEq, Repr

structure AlertFieldRow where
  alertId : AlertId
  field : AlertField
  value : String
  deriving DecidableEq, Repr

structure AlertEventRow where
  id : Uuid
  alertId : AlertId
  eventType : AlertEventType
  aggregateVersion : Nat
  actorType : String
  actorId : Option Uuid
  deriving DecidableEq, Repr

/-- What a worker reads of a consumer. -/
structure ConsumerRow where
  id : ConsumerId
  locale : Option String
  deriving DecidableEq, Repr

structure SubscriptionRow where
  subscription : Subscription
  createdAt : Timestamp

structure MembershipRow where
  reviewerId : Uuid
  role : Role
  organizationId : Option OrganizationId
  deriving DecidableEq, Repr

structure OrganizationRow where
  id : OrganizationId
  verifiedIncidentTypes : List IncidentType
  verifiedAlertVisibilities : List AlertVisibility
  consumerId : Option ConsumerId
  isActive : Bool
  deriving DecidableEq, Repr

structure ReportRow where
  id : ReportId
  sourceChannel : ReportSourceChannel
  rawContent : String
  status : ReportStatus
  followUpTokenHash : Bytes
  idempotencyKeyHash : Option Bytes
  reportedIncidentType : Option IncidentType
  deriving DecidableEq, Repr

structure CaseRow where
  id : CaseId
  incidentType : IncidentType
  status : CaseStatus
  aggregateVersion : Nat
  deriving DecidableEq, Repr

structure CaseReportRow where
  caseId : CaseId
  reportId : ReportId
  linkedAt : Timestamp
  deriving DecidableEq, Repr

structure CaseEventRow where
  id : Uuid
  caseId : CaseId
  eventType : CaseEventType
  aggregateVersion : Nat
  actorType : String
  actorId : Option Uuid
  deriving DecidableEq, Repr

/-- The tables, with the rows in the order they were written. -/
structure Db where
  deliveries : List DeliveryRow
  deliveryAttempts : List DeliveryAttemptRow
  deliveryEvents : List DeliveryEventRow
  webhookReplayEvents : List (ChannelType × String)
  outboxEvents : List OutboxRow
  auditEvents : List AuditRow
  alerts : List AlertRow
  alertFields : List AlertFieldRow
  alertEvents : List AlertEventRow
  consumers : List ConsumerRow
  subscriptions : List SubscriptionRow
  deliveryPreferences : List (ConsumerId × DeliveryPreference)
  memberships : List MembershipRow
  organizations : List OrganizationRow
  reports : List ReportRow
  cases : List CaseRow
  caseReports : List CaseReportRow
  caseEvents : List CaseEventRow

def Db.empty : Db :=
  { deliveries := [], deliveryAttempts := [], deliveryEvents := [], webhookReplayEvents := []
    outboxEvents := [], auditEvents := [], alerts := [], alertFields := [], alertEvents := []
    consumers := [], subscriptions := [], deliveryPreferences := [], memberships := []
    organizations := [], reports := [], cases := [], caseReports := [], caseEvents := [] }

/-- The organization the acting reviewer belongs to when the audit row is written. -/
def organizationIdForActor (actorId : Option Uuid) (db : Db) : Option OrganizationId :=
  match actorId with
  | none => none
  | some id => (db.memberships.find? fun row => row.reviewerId = id).bind (·.organizationId)

def insertAuditEvent (resourceType : String) (auditEventId : Uuid) (actor : Actor) (action : String)
    (resourceId requestId : Uuid) (db : Db) : Except Failure Db := do
  let row : AuditRow :=
    { id := auditEventId
      actorType := actor.asDatabaseValue
      actorId := actor.actorId
      organizationId := organizationIdForActor actor.actorId db
      action, resourceType, resourceId := some resourceId, requestId }
  let auditEvents ← Table.insertUnique .database (·.id) row db.auditEvents
  return { db with auditEvents }

def insertOutboxEvent (now : Timestamp) (aggregateType : String) (outboxEventId aggregateId : Uuid)
    (eventType : String) (payload : Json) (db : Db) : Except Failure Db := do
  let row : OutboxRow :=
    { id := outboxEventId, aggregateType, aggregateId, eventType, payload
      createdAt := now, publishedAt := none, claimedAt := none }
  let outboxEvents ← Table.insertUnique .database (·.id) row db.outboxEvents
  return { db with outboxEvents }

end SafeCameroon
