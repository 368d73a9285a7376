import SafeCameroon.Aggregate.CaseEffects
import SafeCameroon.Delivery.Calls

namespace SafeCameroon

open Table

/-- The aggregates whose events are announced and audited. -/
inductive Aggregate where
  | cases
  | alerts
  | deliveries
  deriving DecidableEq, Repr

/-- One event with who caused it. -/
structure Occurrence where
  aggregateId : Uuid
  eventType : String
  actorType : String
  actorId : Option Uuid
  deriving DecidableEq, Repr

def Occurrence.announced (occurrence : Occurrence) : Uuid × String :=
  (occurrence.aggregateId, occurrence.eventType)

/-- What the audit tells of it: the resource, the action, and who acted. -/
def Occurrence.audited (occurrence : Occurrence) : Option Uuid × String × String × Option Uuid :=
  (some occurrence.aggregateId, occurrence.eventType, occurrence.actorType, occurrence.actorId)

namespace Aggregate

def type : Aggregate → String
  | .cases => "CASE"
  | .alerts => "ALERT"
  | .deliveries => "DELIVERY"

def eventTypes : Aggregate → List String
  | .cases => [CaseEventType.caseCreated, .caseReportLinked, .caseUnderReview, .caseVerified,
      .caseActivated, .caseResolved, .caseCancelled, .caseRejected].map (·.asDatabaseValue)
  | .alerts => [AlertEventType.alertCreated, .alertCancelled].map (·.asDatabaseValue)
  | .deliveries => [DeliveryEventType.deliveryRequested, .deliveryStarted, .deliverySent,
      .deliveryDelivered, .deliveryFailed, .deliveryRetried].map (·.asDatabaseValue)

theorem type_injective (first second : Aggregate) (same : first.type = second.type) :
    first = second := by
  cases first <;> cases second <;> simp [type] at same ⊢

theorem caseEventType_mem (type : CaseEventType) : type.asDatabaseValue ∈ cases.eventTypes := by
  cases type <;> decide

theorem alertEventType_mem (type : AlertEventType) : type.asDatabaseValue ∈ alerts.eventTypes := by
  cases type <;> decide

theorem deliveryEventType_mem (type : DeliveryEventType) :
    type.asDatabaseValue ∈ deliveries.eventTypes := by
  cases type <;> decide

def occurrences (db : Db) : Aggregate → List Occurrence
  | .cases => db.caseEvents.map fun row =>
      ⟨row.caseId.uuid, row.eventType.asDatabaseValue, row.actorType, row.actorId⟩
  | .alerts => db.alertEvents.map fun row =>
      ⟨row.alertId.uuid, row.eventType.asDatabaseValue, row.actorType, row.actorId⟩
  | .deliveries => db.deliveryEvents.map fun row =>
      ⟨row.deliveryId.uuid, row.eventType.asDatabaseValue, row.actorType, row.actorId⟩

def announcements (rows : List OutboxRow) (aggregate : Aggregate) : List (Uuid × String) :=
  (rows.filter fun row => row.aggregateType = aggregate.type).map fun row =>
    (row.aggregateId, row.eventType)

def audits (rows : List AuditRow) (aggregate : Aggregate) :
    List (Option Uuid × String × String × Option Uuid) :=
  (rows.filter fun row => row.resourceType = aggregate.type ∧ row.action ∈ aggregate.eventTypes).map
    fun row => (row.resourceId, row.action, row.actorType, row.actorId)

theorem announcements_append (rows added : List OutboxRow) (aggregate : Aggregate) :
    announcements (rows ++ added) aggregate =
      announcements rows aggregate ++ announcements added aggregate := by
  simp [announcements]

theorem audits_append (rows added : List AuditRow) (aggregate : Aggregate) :
    audits (rows ++ added) aggregate = audits rows aggregate ++ audits added aggregate := by
  simp [audits]

end Aggregate

open Aggregate

/-- Every event of the aggregate that the change adds, it adds to the outbox and to the audit too, and
nothing else of that kind. -/
def Mirrored (db after : Db) : Prop :=
  ∀ aggregate, ∃ added : List Occurrence,
    occurrences after aggregate = occurrences db aggregate ++ added ∧
    announcements after.outboxEvents aggregate = announcements db.outboxEvents aggregate ++
      added.map Occurrence.announced ∧
    audits after.auditEvents aggregate = audits db.auditEvents aggregate ++
      added.map Occurrence.audited

namespace Mirrored

theorem refl (db : Db) : Mirrored db db := fun _ => ⟨[], by simp⟩

theorem trans {db middle after : Db} (first : Mirrored db middle) (second : Mirrored middle after) :
    Mirrored db after := by
  intro aggregate
  obtain ⟨before, events, outbox, audit⟩ := first aggregate
  obtain ⟨added, moreEvents, moreOutbox, moreAudit⟩ := second aggregate
  refine ⟨before ++ added, ?_, ?_, ?_⟩
  · rw [moreEvents, events, List.append_assoc]
  · rw [moreOutbox, outbox, List.append_assoc, List.map_append]
  · rw [moreAudit, audit, List.append_assoc, List.map_append]

theorem of_same {db after : Db} (caseEvents : after.caseEvents = db.caseEvents)
    (alertEvents : after.alertEvents = db.alertEvents)
    (deliveryEvents : after.deliveryEvents = db.deliveryEvents)
    (outbox : after.outboxEvents = db.outboxEvents) (audit : after.auditEvents = db.auditEvents) :
    Mirrored db after := by
  intro aggregate
  refine ⟨[], ?_, ?_, ?_⟩
  · cases aggregate <;> simp [occurrences, caseEvents, alertEvents, deliveryEvents]
  · simp [outbox]
  · simp [audit]

theorem of_event (kind : Aggregate) (occurrence : Occurrence) (actor : Actor)
    (now : Timestamp) (auditEventId outboxEventId requestId : Uuid) (payload : Json)
    (db recorded audited after : Db)
    (events : ∀ aggregate, occurrences recorded aggregate = occurrences db aggregate ++
      if aggregate = kind then [occurrence] else [])
    (outbox : recorded.outboxEvents = db.outboxEvents)
    (audit : recorded.auditEvents = db.auditEvents)
    (known : occurrence.eventType ∈ kind.eventTypes)
    (actorType : occurrence.actorType = actor.asDatabaseValue)
    (actorId : occurrence.actorId = actor.actorId)
    (inserted : insertAuditEvent kind.type auditEventId actor occurrence.eventType
      occurrence.aggregateId requestId recorded = .ok audited)
    (announced : insertOutboxEvent now kind.type outboxEventId occurrence.aggregateId
      occurrence.eventType payload audited = .ok after) : Mirrored db after := by
  obtain ⟨rfl, _⟩ := insertAuditEvent_ok _ _ _ _ _ _ _ _ inserted
  obtain ⟨rfl, _⟩ := insertOutboxEvent_ok _ _ _ _ _ _ _ _ announced
  intro aggregate
  refine ⟨if aggregate = kind then [occurrence] else [], ?_, ?_, ?_⟩
  · exact events aggregate
  · simp only [outbox, announcements_append]
    by_cases mine : aggregate = kind
    · subst mine
      simp [announcements, outboxRow, Occurrence.announced]
    · have other : kind.type ≠ aggregate.type := fun same => mine (type_injective _ _ same.symm)
      simp [announcements, outboxRow, mine, other]
  · simp only [audit, audits_append]
    by_cases mine : aggregate = kind
    · subst mine
      simp [audits, auditRow, known, Occurrence.audited, ← actorType, ← actorId]
    · have other : kind.type ≠ aggregate.type := fun same => mine (type_injective _ _ same.symm)
      simp [audits, auditRow, mine, other]

theorem of_audit (row : AuditRow) {db after : Db} (caseEvents : after.caseEvents = db.caseEvents)
    (alertEvents : after.alertEvents = db.alertEvents)
    (deliveryEvents : after.deliveryEvents = db.deliveryEvents)
    (outbox : after.outboxEvents = db.outboxEvents)
    (audit : after.auditEvents = db.auditEvents ++ [row])
    (foreign : ∀ aggregate : Aggregate, row.resourceType = aggregate.type →
      row.action ∉ aggregate.eventTypes) : Mirrored db after := by
  intro aggregate
  refine ⟨[], ?_, ?_, ?_⟩
  · cases aggregate <;> simp [occurrences, caseEvents, alertEvents, deliveryEvents]
  · simp [outbox]
  · rw [audit, audits_append]
    have none : audits [row] aggregate = [] := by
      simp only [audits, List.map_eq_nil_iff, List.filter_eq_nil_iff, List.mem_singleton]
      intro other same
      subst same
      simpa using foreign aggregate
    rw [none, List.map_nil]

end Mirrored

end SafeCameroon
