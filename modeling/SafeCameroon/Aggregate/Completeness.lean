import SafeCameroon.Aggregate.AlertLedger
import SafeCameroon.Aggregate.Mirrored
import SafeCameroon.Application.Disclosure
import SafeCameroon.Incidents.Calls
import SafeCameroon.Postgres.AuditEvents
import Mathlib.Data.Multiset.AddSub

namespace SafeCameroon

open Table Aggregate

theorem mirrored_transaction {ε α : Type} (fault : Bool) (failure : ε)
    (body : Db → Except ε (Ending Db α)) (db : Db)
    (commits : ∀ value after, body db = .ok (.commit value after) → Mirrored db after) :
    Mirrored db (transaction fault failure body db).2 :=
  transaction_related Mirrored .refl fault failure body db commits

theorem mirrored_caseEvent (now : Timestamp) (event : CaseEvent) (actor : Actor) (caseId : CaseId)
    (auditEventId outboxEventId requestId : Uuid) (payload : Json) (db recorded audited after : Db)
    (subject : event.caseId = caseId) (inserted : insertCaseEvent event actor db = .ok recorded)
    (audit : insertAuditEvent "CASE" auditEventId actor event.eventType.asDatabaseValue caseId.uuid
      requestId recorded = .ok audited)
    (outbox : insertOutboxEvent now "CASE" outboxEventId caseId.uuid event.eventType.asDatabaseValue
      payload audited = .ok after) : Mirrored db after := by
  have added := insertCaseEvent_ok _ _ _ _ inserted
  subst subject
  refine .of_event .cases
    ⟨event.caseId.uuid, event.eventType.asDatabaseValue, actor.asDatabaseValue, actor.actorId⟩ actor
    now auditEventId outboxEventId requestId payload db recorded audited after ?_ ?_ ?_
    (caseEventType_mem _) rfl rfl audit outbox
  · intro aggregate
    rw [added]
    cases aggregate <;> simp [occurrences, caseEventRow]
  · rw [added]
  · rw [added]

theorem mirrored_alertEvent (now : Timestamp) (event : AlertEvent) (actor : Actor) (alertId : AlertId)
    (auditEventId outboxEventId requestId : Uuid) (payload : Json) (db recorded audited after : Db)
    (subject : event.alertId = alertId) (inserted : insertAlertEvent event actor db = .ok recorded)
    (audit : insertAuditEvent "ALERT" auditEventId actor event.eventType.asDatabaseValue alertId.uuid
      requestId recorded = .ok audited)
    (outbox : insertOutboxEvent now "ALERT" outboxEventId alertId.uuid event.eventType.asDatabaseValue
      payload audited = .ok after) : Mirrored db after := by
  obtain ⟨added, _⟩ := insertAlertEvent_ok _ _ _ _ inserted
  subst subject
  refine .of_event .alerts
    ⟨event.alertId.uuid, event.eventType.asDatabaseValue, actor.asDatabaseValue, actor.actorId⟩ actor
    now auditEventId outboxEventId requestId payload db recorded audited after ?_ ?_ ?_
    (alertEventType_mem _) rfl rfl audit outbox
  · intro aggregate
    rw [added]
    cases aggregate <;> simp [occurrences, alertEventRow]
  · rw [added]
  · rw [added]

theorem mirrored_deliveryEvent (now : Timestamp) (delivery : Delivery) (event : DeliveryEvent)
    (actor : Actor) (auditEventId outboxEventId requestId : Uuid) (payload : Json) (db after : Db)
    (h : recordDeliveryEvent now delivery event actor auditEventId outboxEventId requestId payload db
      = .ok after) : Mirrored db after := by
  simp only [recordDeliveryEvent, bind_ok] at h
  obtain ⟨recorded, inserted, audited, audit, outbox⟩ := h
  simp only [insertDeliveryEvent, bind_ok, pure, Except.pure, Except.ok.injEq] at inserted
  obtain ⟨_, _, deliveryEvents, appended, same⟩ := inserted
  obtain ⟨rfl, _⟩ := insertUnique_ok _ _ _ _ _ appended
  refine .of_event .deliveries
    ⟨delivery.id.uuid, event.eventType.asDatabaseValue, actor.asDatabaseValue, actor.actorId⟩ actor
    now auditEventId outboxEventId requestId payload db recorded audited after ?_ ?_ ?_
    (deliveryEventType_mem _) rfl rfl audit outbox
  · intro aggregate
    rw [← same]
    cases aggregate <;> simp [occurrences]
  · rw [← same]
  · rw [← same]

section Cases

variable (now : Timestamp)

theorem createCase_mirrored (creation : CaseCreation) (db after : Db) (outcome : CaseCreationOutcome)
    (subject : creation.event.caseId = creation.case.id)
    (h : PostgresCaseRepository.create now creation db = .ok (.commit outcome after)) :
    Mirrored db after := by
  simp only [PostgresCaseRepository.create, insertCase, bind_ok, pure, Except.pure, Except.ok.injEq] at h
  obtain ⟨reportId, _, stored, ⟨cases, _, rfl⟩, linked, link, rest⟩ := h
  cases linked with
  | none => simp at rest
  | some linked =>
      obtain ⟨rfl, _⟩ := insertCaseReportLink_ok _ _ _ _ _ link
      simp only [bind_ok, Except.ok.injEq, Ending.commit.injEq] at rest
      obtain ⟨recorded, inserted, audited, audit, final, outbox, _, rfl⟩ := rest
      have events := mirrored_caseEvent now _ _ _ _ _ _ _ _ _ _ _ subject inserted audit outbox
      exact Mirrored.trans (.of_same rfl rfl rfl rfl rfl) events

theorem linkReport_mirrored (c : Case) (link : CaseReportLink) (db after : Db)
    (outcome : CaseLinkOutcome) (subject : link.event.caseId = c.id)
    (h : PostgresCaseRepository.linkReport now c link db = .ok (.commit outcome after)) :
    Mirrored db after := by
  simp only [PostgresCaseRepository.linkReport, bind_ok, pure, Except.pure] at h
  obtain ⟨linked, inserted, rest⟩ := h
  cases linked with
  | none => simp at rest
  | some linked =>
      obtain ⟨rfl, _⟩ := insertCaseReportLink_ok _ _ _ _ _ inserted
      cases advanced : advanceCaseVersion c.id none c.version
          (markReportLinkedToCase link.reportId { db with
            caseReports := db.caseReports ++
              [{ caseId := c.id, reportId := link.reportId, linkedAt := now }] }) with
      | none => simp [advanced] at rest
      | some moved =>
          simp only [advanced, bind_ok, Except.ok.injEq, Ending.commit.injEq] at rest
          obtain ⟨_, rfl⟩ := advanceCaseVersion_some _ _ _ _ _ advanced
          obtain ⟨recorded, written, audited, audit, final, outbox, _, rfl⟩ := rest
          have events := mirrored_caseEvent now _ _ _ _ _ _ _ _ _ _ _ subject written audit outbox
          exact Mirrored.trans (.of_same rfl rfl rfl rfl rfl) events

theorem applyReview_mirrored (c : Case) (review : CaseReview) (db after : Db)
    (outcome : CaseReviewOutcome) (subject : review.event.caseId = c.id)
    (h : PostgresCaseRepository.applyReview now c review db = .ok (.commit outcome after)) :
    Mirrored db after := by
  simp only [PostgresCaseRepository.applyReview, pure, Except.pure] at h
  cases advanced : advanceCaseVersion c.id (some c.status) c.version db with
  | none => simp [advanced] at h
  | some moved =>
      simp only [advanced, bind_ok, Except.ok.injEq, Ending.commit.injEq] at h
      obtain ⟨_, rfl⟩ := advanceCaseVersion_some _ _ _ _ _ advanced
      obtain ⟨recorded, written, audited, audit, final, outbox, _, rfl⟩ := h
      have events := mirrored_caseEvent now _ _ _ _ _ _ _ _ _ _ _ subject written audit outbox
      exact Mirrored.trans (.of_same rfl rfl rfl rfl rfl) events

theorem createAlert_mirrored (creation : AlertCreation) (db after : Db)
    (outcome : AlertCreationOutcome) (subject : creation.event.alertId = creation.alert.id)
    (h : PostgresAlertRepository.create now creation db = .ok (.commit outcome after)) :
    Mirrored db after := by
  simp only [PostgresAlertRepository.create, bind_ok, pure, Except.pure] at h
  obtain ⟨⟨duplicate, stored⟩, inserted, rest⟩ := h
  obtain ⟨alerts, rfl, _⟩ := insertAlert_ok _ _ _ _ inserted
  cases duplicate with
  | some alertId => simp at rest
  | none =>
      simp only [bind_ok, Except.ok.injEq, Ending.commit.injEq] at rest
      obtain ⟨withFields, fields, recorded, written, audited, audit, final, outbox, _, rfl⟩ := rest
      have same := insertAlertFields_ok _ _ _ _ fields
      have events := mirrored_alertEvent now _ _ _ _ _ _ _ _ _ _ _ subject written audit outbox
      refine Mirrored.trans ?_ events
      rw [same]
      exact .of_same rfl rfl rfl rfl rfl

theorem cancelAlert_mirrored (alert : Alert) (cancellation : AlertCancellation) (db after : Db)
    (outcome : AlertCancelOutcome) (subject : cancellation.event.alertId = alert.id)
    (h : PostgresAlertRepository.cancel now alert cancellation db = .ok (.commit outcome after)) :
    Mirrored db after := by
  simp only [PostgresAlertRepository.cancel] at h
  split at h
  · simp only [bind_ok, pure, Except.pure, Except.ok.injEq, Ending.commit.injEq] at h
    obtain ⟨recorded, written, audited, audit, final, outbox, _, rfl⟩ := h
    have events := mirrored_alertEvent now _ _ _ _ _ _ _ _ _ _ _ subject written audit outbox
    exact Mirrored.trans (.of_same rfl rfl rfl rfl rfl) events
  · simp [pure, Except.pure] at h

end Cases

section Deliveries

variable (now : Timestamp)

theorem createPlannedItem_mirrored (item : PlannedDelivery) (db after : Db)
    (h : PostgresDeliveryRepository.createPlannedItem now item db = .ok (.commit () after)) :
    Mirrored db after := by
  simp only [PostgresDeliveryRepository.createPlannedItem, bind_ok, pure, Except.pure] at h
  obtain ⟨⟨inserted, stored⟩, insertion, rest⟩ := h
  cases inserted with
  | false => simp at rest
  | true =>
      simp only [if_true, bind_ok, Except.ok.injEq, Ending.commit.injEq, true_and] at rest
      obtain ⟨final, recorded, rfl⟩ := rest
      have events := mirrored_deliveryEvent now _ _ _ _ _ _ _ _ _ recorded
      refine Mirrored.trans ?_ events
      simp only [insertDelivery] at insertion
      split at insertion
      · simp at insertion
      · split at insertion
        · simp at insertion
        · split at insertion
          · simp at insertion
          · simp only [bind_ok, pure, Except.pure, Except.ok.injEq, Prod.mk.injEq, true_and]
              at insertion
            obtain ⟨deliveries, _, rfl⟩ := insertion
            exact .of_same rfl rfl rfl rfl rfl

theorem applyTransition_mirrored (delivery : Delivery) (transition : DeliveryTransition)
    (db after : Db) (outcome : DeliveryTransitionOutcome)
    (h : PostgresDeliveryRepository.applyTransition now delivery transition db =
      .ok (.commit outcome after)) : Mirrored db after := by
  simp only [PostgresDeliveryRepository.applyTransition] at h
  split at h
  · simp only [bind_ok, pure, Except.pure, Except.ok.injEq, Ending.commit.injEq] at h
    obtain ⟨final, recorded, _, rfl⟩ := h
    have events := mirrored_deliveryEvent now _ _ _ _ _ _ _ _ _ recorded
    exact Mirrored.trans (.of_same rfl rfl rfl rfl rfl) events
  · simp [pure, Except.pure] at h

theorem applyAttemptTransition_mirrored (delivery : Delivery)
    (transition : DeliveryAttemptTransition) (db after : Db) (outcome : DeliveryTransitionOutcome)
    (h : PostgresDeliveryRepository.applyAttemptTransition now delivery transition db =
      .ok (.commit outcome after)) : Mirrored db after := by
  simp only [PostgresDeliveryRepository.applyAttemptTransition] at h
  split at h
  · simp only [insertDeliveryAttempt, bind_ok, pure, Except.pure, Except.ok.injEq,
      Ending.commit.injEq] at h
    obtain ⟨_, ⟨_, _, attempts, _, rfl⟩, final, recorded, _, rfl⟩ := h
    have events := mirrored_deliveryEvent now _ _ _ _ _ _ _ _ _ recorded
    exact Mirrored.trans (.of_same rfl rfl rfl rfl rfl) events
  · simp [pure, Except.pure] at h

theorem claimRow_mirrored (fresh : Supply) (row : DeliveryRow) (db after : Db) (delivery : Delivery)
    (h : PostgresDeliveryRepository.claimRow now fresh row db = .ok (delivery, after)) :
    Mirrored db after := by
  simp only [PostgresDeliveryRepository.claimRow, bind_ok, pure, Except.pure, Except.ok.injEq,
    Prod.mk.injEq] at h
  obtain ⟨read, _, ⟨started, transition⟩, _, _, _, final, recorded, _, rfl⟩ := h
  have events := mirrored_deliveryEvent now _ _ _ _ _ _ _ _ _ recorded
  exact Mirrored.trans (.of_same rfl rfl rfl rfl rfl) events

theorem claimRows_mirrored (fresh : Supply) (index : Nat) (rows : List DeliveryRow) (db after : Db)
    (claimed : List Delivery)
    (h : PostgresDeliveryRepository.claimRows now fresh index rows db = .ok (claimed, after)) :
    Mirrored db after := by
  induction rows generalizing index db claimed with
  | nil =>
      simp only [PostgresDeliveryRepository.claimRows, Except.ok.injEq, Prod.mk.injEq] at h
      obtain ⟨_, rfl⟩ := h
      exact .refl db
  | cons row rows ih =>
      simp only [PostgresDeliveryRepository.claimRows, bind_ok, pure, Except.pure, Except.ok.injEq,
        Prod.mk.injEq] at h
      obtain ⟨⟨delivery, middle⟩, first, ⟨others, last⟩, rest, _, rfl⟩ := h
      exact Mirrored.trans (claimRow_mirrored now _ row db middle delivery first)
        (ih (index + 1) middle others rest)

end Deliveries

theorem updateSubscription_mirrored (auditEventId : Uuid) (subscription : Subscription)
    (actor : Actor) (requestId : Uuid) (db after : Db) (outcome : Bool)
    (h : PostgresSubscriptionRepository.update auditEventId subscription actor requestId db =
      .ok (.commit outcome after)) : Mirrored db after := by
  simp only [PostgresSubscriptionRepository.update] at h
  split at h
  · simp only [bind_ok, pure, Except.pure, Except.ok.injEq, Ending.commit.injEq] at h
    obtain ⟨final, audit, _, rfl⟩ := h
    obtain ⟨rfl, _⟩ := insertAuditEvent_ok _ _ _ _ _ _ _ _ audit
    refine .of_audit _ rfl rfl rfl rfl rfl ?_
    intro aggregate same
    cases aggregate <;> simp [auditRow, Aggregate.type] at same
  · simp [pure, Except.pure] at h

theorem submitAnonymous_mirrored (now : Timestamp) (submission : AnonymousReportSubmission)
    (db after : Db) (outcome : SubmissionResult)
    (h : PostgresReportRepository.submitAnonymous now submission db = .ok (.commit outcome after)) :
    Mirrored db after := by
  simp only [PostgresReportRepository.submitAnonymous, insertReport, bind_ok, pure, Except.pure,
    Except.ok.injEq] at h
  obtain ⟨⟨duplicate, stored⟩, ⟨⟨existing, reports⟩, _, same⟩, rest⟩ := h
  obtain ⟨_, rfl⟩ := Prod.mk.inj same
  cases duplicate with
  | some reportId => simp at rest
  | none =>
      simp only [insertReportAuditEvent, bind_ok, pure, Except.pure, Except.ok.injEq,
        Ending.commit.injEq] at rest
      obtain ⟨audited, ⟨auditEvents, inserted, rfl⟩, final, outbox, _, rfl⟩ := rest
      obtain ⟨rfl, _⟩ := insertUnique_ok _ _ _ _ _ inserted
      obtain ⟨rfl, _⟩ := insertOutboxEvent_ok _ _ _ _ _ _ _ _ outbox
      intro aggregate
      refine ⟨[], ?_, ?_, ?_⟩
      · cases aggregate <;> simp [occurrences]
      · rw [announcements_append]
        cases aggregate <;> simp [announcements, outboxRow, Aggregate.type]
      · rw [audits_append]
        cases aggregate <;> simp [audits, Aggregate.type]

theorem mirrored_mark (selected : OutboxRow → Bool) (mark : OutboxRow → OutboxRow) (db : Db)
    (keeps : ∀ row, (mark row).aggregateType = row.aggregateType ∧
      (mark row).aggregateId = row.aggregateId ∧ (mark row).eventType = row.eventType) :
    Mirrored db { db with outboxEvents := updateWhere selected mark db.outboxEvents } := by
  intro aggregate
  refine ⟨[], ?_, ?_, ?_⟩
  · cases aggregate <;> simp [occurrences]
  · simp only [announcements, updateWhere, List.map_nil, List.append_nil]
    induction db.outboxEvents with
    | nil => rfl
    | cons row rows ih =>
        have same : (if selected row = true then mark row else row).aggregateType =
            row.aggregateType ∧ (if selected row = true then mark row else row).aggregateId =
            row.aggregateId ∧ (if selected row = true then mark row else row).eventType =
            row.eventType := by
          by_cases chosen : selected row = true
          · simpa [chosen] using keeps row
          · simp [chosen]
        by_cases mine : row.aggregateType = aggregate.type
        · simp [same, mine, ih]
        · simp [same, mine, ih]
  · simp

/-- A writer's transaction, by a request or by a worker. -/
inductive Write where
  | request (call : Incidents.Call) (env : Incidents.Env)
  | delivery (call : Call) (env : Env)
  | alertViewed (auditEventId actorId : Uuid) (organizationId : Option OrganizationId)
      (resourceId : Option Uuid) (requestId : Uuid) (fault : Bool)

namespace Write

/-- The store after the transaction. A conflict, a duplicate, an error and a crash leave it alone. -/
def run : Write → Db → Db
  | .request call env, db => (Incidents.runCall env call db).2
  | .delivery call env, db => (runCall env call db).2
  | .alertViewed auditEventId actorId organizationId resourceId requestId fault, db =>
      (transaction fault .database (PostgresAuditEventRepository.record auditEventId actorId
        organizationId "ALERT_VIEWED" "ALERT" resourceId requestId) db).2

def AlertMade (creation : AlertCreation) : Prop :=
  ∃ sha256 fresh c policy severity targetGeography fields actor requestId idempotencyKey issuer,
    createAlertFromCase sha256 fresh c policy severity targetGeography fields actor requestId
      idempotencyKey issuer = .ok creation

def CancellationMade (alert : Alert) (cancellation : AlertCancellation) : Prop :=
  ∃ fresh before actor requestId, cancelAlert fresh before actor requestId = .ok (alert, cancellation)

def Made : Write → Prop
  | .request (.createCase creation) _ => ∃ fresh incidentType reportId actor requestId,
      creation = createCaseFromReport fresh incidentType reportId actor requestId
  | .request (.linkReport c link) _ => ∃ fresh before reportId actor requestId,
      linkReportToCase fresh before reportId actor requestId = .ok (c, link)
  | .request (.applyReview c review) _ => ∃ fresh before actor status requestId,
      reviewCase fresh before actor status requestId = .ok (c, review)
  | .request (.createAlert creation) _ => AlertMade creation
  | .request (.cancelAlert alert cancellation) _ => CancellationMade alert cancellation
  | .delivery (.edit (.createAlert creation)) _ => AlertMade creation
  | .delivery (.edit (.cancelAlert alert cancellation)) _ => CancellationMade alert cancellation
  | _ => True

end Write

theorem AlertMade.subject {creation : AlertCreation} (made : Write.AlertMade creation) :
    creation.event.alertId = creation.alert.id := by
  obtain ⟨sha256, fresh, c, policy, severity, targetGeography, fields, actor, requestId,
    idempotencyKey, issuer, result⟩ := made
  have created := (createAlertFromCase_ok sha256 fresh c policy severity targetGeography fields actor
    requestId idempotencyKey issuer creation result).2.1
  exact (Alert.createFromCase_new _ _ _ _ _ _ _ _ _ created).subject

theorem CancellationMade.subject {alert : Alert} {cancellation : AlertCancellation}
    (made : Write.CancellationMade alert cancellation) : cancellation.event.alertId = alert.id := by
  obtain ⟨fresh, before, actor, requestId, result⟩ := made
  have ends := (cancelAlert_ends fresh before alert actor requestId cancellation result).1
  rw [ends.subject, ends.alert]

theorem linkReport_subject (fresh : Supply) (before c : Case) (reportId : ReportId) (actor : Actor)
    (requestId : Uuid) (link : CaseReportLink)
    (h : linkReportToCase fresh before reportId actor requestId = .ok (c, link)) :
    link.event.caseId = c.id := by
  simp only [linkReportToCase, bind_ok, pure, Except.pure, Except.ok.injEq, Prod.mk.injEq] at h
  obtain ⟨⟨after, event⟩, linked, rfl, rfl⟩ := h
  simp only [Case.linkReport] at linked
  split at linked
  · simp at linked
  · simp only [Except.ok.injEq, Prod.mk.injEq] at linked
    obtain ⟨rfl, rfl⟩ := linked
    rfl

theorem review_subject (fresh : Supply) (before c : Case) (actor : Actor) (status : CaseStatus)
    (requestId : Uuid) (review : CaseReview)
    (h : reviewCase fresh before actor status requestId = .ok (c, review)) :
    review.event.caseId = c.id := by
  simp only [reviewCase, bind_ok, pure, Except.pure, Except.ok.injEq, Prod.mk.injEq] at h
  obtain ⟨_, _, ⟨after, event⟩, moved, rfl, rfl⟩ := h
  simp only [Case.transitionTo] at moved
  split at moved
  · simp only [Except.mapError, Except.ok.injEq, Prod.mk.injEq] at moved
    obtain ⟨rfl, rfl⟩ := moved
    rfl
  · simp [Except.mapError] at moved

section Writers

open Write

theorem request_mirrored (call : Incidents.Call) (env : Incidents.Env) (db : Db)
    (made : (Write.request call env).Made) : Mirrored db (Incidents.runCall env call db).2 := by
  cases call with
  | submitAnonymous submission =>
      exact mirrored_transaction _ _ _ db fun _ after h =>
        submitAnonymous_mirrored env.now submission db after _ h
  | markUnderReview id =>
      refine mirrored_transaction _ _ _ db fun _ after h => ?_
      simp only [PostgresReportRepository.markUnderReview, Except.ok.injEq, Ending.commit.injEq] at h
      obtain ⟨_, rfl⟩ := h
      exact .of_same rfl rfl rfl rfl rfl
  | createCase creation =>
      obtain ⟨fresh, incidentType, reportId, actor, requestId, rfl⟩ := made
      exact mirrored_transaction _ _ _ db fun _ after h =>
        createCase_mirrored env.now _ db after _ rfl h
  | linkReport c link =>
      obtain ⟨fresh, before, reportId, actor, requestId, result⟩ := made
      exact mirrored_transaction _ _ _ db fun _ after h =>
        linkReport_mirrored env.now c link db after _ (linkReport_subject _ _ _ _ _ _ _ result) h
  | applyReview c review =>
      obtain ⟨fresh, before, actor, status, requestId, result⟩ := made
      exact mirrored_transaction _ _ _ db fun _ after h =>
        applyReview_mirrored env.now c review db after _ (review_subject _ _ _ _ _ _ _ result) h
  | createAlert creation =>
      exact mirrored_transaction _ _ _ db fun _ after h =>
        createAlert_mirrored env.now creation db after _ (AlertMade.subject made) h
  | cancelAlert alert cancellation =>
      exact mirrored_transaction _ _ _ db fun _ after h =>
        cancelAlert_mirrored env.now alert cancellation db after _ (CancellationMade.subject made) h
  | edit edit =>
      refine mirrored_transaction _ _ _ db fun _ after h => ?_
      cases edit with
      | createOrganization id =>
          simp only [Incidents.runEdit, PostgresOrganizationRepository.create, bind_ok, pure,
            Except.pure, Except.ok.injEq, Ending.commit.injEq] at h
          obtain ⟨_, _, _, rfl⟩ := h
          exact .of_same rfl rfl rfl rfl rfl
      | setActive id isActive =>
          simp only [Incidents.runEdit, PostgresOrganizationRepository.setActive, Except.ok.injEq,
            Ending.commit.injEq] at h
          obtain ⟨_, rfl⟩ := h
          exact .of_same rfl rfl rfl rfl rfl
      | setConsumerId id consumerId =>
          simp only [Incidents.runEdit, PostgresOrganizationRepository.setConsumerId] at h
          split at h
          · simp at h
          · split at h
            · simp at h
            · simp only [Except.ok.injEq, Ending.commit.injEq] at h
              obtain ⟨_, rfl⟩ := h
              exact .of_same rfl rfl rfl rfl rfl
      | setTrustGrants id incidentTypes visibilities =>
          simp only [Incidents.runEdit, PostgresOrganizationRepository.setTrustGrants,
            Except.ok.injEq, Ending.commit.injEq] at h
          obtain ⟨_, rfl⟩ := h
          exact .of_same rfl rfl rfl rfl rfl
      | addMembership reviewerId role organizationId =>
          simp only [Incidents.runEdit, PostgresOrganizationRepository.addMembership] at h
          split at h
          · simp at h
          · split at h
            · simp at h
            · simp only [bind_ok, pure, Except.pure, Except.ok.injEq, Ending.commit.injEq] at h
              obtain ⟨_, _, _, rfl⟩ := h
              exact .of_same rfl rfl rfl rfl rfl
      | createConsumer row =>
          simp only [Incidents.runEdit, PostgresConsumerRepository.create, bind_ok, pure, Except.pure,
            Except.ok.injEq, Ending.commit.injEq] at h
          obtain ⟨_, _, _, rfl⟩ := h
          exact .of_same rfl rfl rfl rfl rfl
      | createSubscription subscription =>
          simp only [Incidents.runEdit, PostgresSubscriptionRepository.create, bind_ok, pure,
            Except.pure, Except.ok.injEq, Ending.commit.injEq] at h
          obtain ⟨_, _, _, rfl⟩ := h
          exact .of_same rfl rfl rfl rfl rfl
      | updateSubscription auditEventId subscription actor requestId =>
          simp only [Incidents.runEdit, bind_ok] at h
          obtain ⟨ending, updated, rest⟩ := h
          cases ending with
          | rollback outcome => simp [pure, Except.pure] at rest
          | commit outcome final =>
              simp only [pure, Except.pure, Except.ok.injEq, Ending.commit.injEq] at rest
              obtain ⟨_, rfl⟩ := rest
              exact updateSubscription_mirrored _ _ _ _ db _ _ updated
      | deleteSubscription id =>
          simp only [Incidents.runEdit, PostgresSubscriptionRepository.delete, Except.ok.injEq,
            Ending.commit.injEq] at h
          obtain ⟨_, rfl⟩ := h
          exact .of_same rfl rfl rfl rfl rfl
  | _ => exact .refl db

theorem delivery_mirrored (call : Call) (env : Env) (db : Db)
    (made : (Write.delivery call env).Made) : Mirrored db (runCall env call db).2 := by
  cases call with
  | claimUnpublished eventType limit =>
      refine mirrored_transaction _ _ _ db fun _ after h => ?_
      simp only [PostgresOutboxRepository.claimUnpublished, pure, Except.pure, Except.ok.injEq,
        Ending.commit.injEq] at h
      obtain ⟨_, rfl⟩ := h
      exact mirrored_mark _ _ db fun _ => ⟨rfl, rfl, rfl⟩
  | markPublished id =>
      refine mirrored_transaction _ _ _ db fun _ after h => ?_
      simp only [PostgresOutboxRepository.markPublished, pure, Except.pure, Except.ok.injEq,
        Ending.commit.injEq] at h
      obtain ⟨_, rfl⟩ := h
      exact mirrored_mark _ _ db fun _ => ⟨rfl, rfl, rfl⟩
  | createPlannedItem item =>
      exact mirrored_transaction _ _ _ db fun _ after h =>
        createPlannedItem_mirrored env.now item db after h
  | lockAndStart limit snapshot =>
      refine mirrored_transaction _ _ _ db fun _ after h => ?_
      simp only [PostgresDeliveryRepository.claimNext, bind_ok, pure, Except.pure, Except.ok.injEq,
        Ending.commit.injEq] at h
      obtain ⟨⟨claimed, final⟩, started, _, rfl⟩ := h
      exact claimRows_mirrored snapshot.now env.fresh 0 _ db final claimed started
  | applyTransition delivery transition =>
      exact mirrored_transaction _ _ _ db fun _ after h =>
        applyTransition_mirrored env.now delivery transition db after _ h
  | applyAttemptTransition delivery transition =>
      exact mirrored_transaction _ _ _ db fun _ after h =>
        applyAttemptTransition_mirrored env.now delivery transition db after _ h
  | recordIfNew channel providerEventId =>
      refine mirrored_transaction _ _ _ db fun _ after h => ?_
      simp only [PostgresWebhookReplayGuard.recordIfNew] at h
      split at h
      · simp at h
      · split at h
        · simp only [Except.ok.injEq, Ending.commit.injEq] at h
          obtain ⟨_, rfl⟩ := h
          exact .refl db
        · simp only [Except.ok.injEq, Ending.commit.injEq] at h
          obtain ⟨_, rfl⟩ := h
          exact .of_same rfl rfl rfl rfl rfl
  | edit edit =>
      refine mirrored_transaction _ _ _ db fun _ after h => ?_
      cases edit with
      | createAlert creation =>
          simp only [runEdit, bind_ok] at h
          obtain ⟨ending, created, rest⟩ := h
          cases ending with
          | rollback outcome => simp [pure, Except.pure] at rest
          | commit outcome final =>
              simp only [pure, Except.pure, Except.ok.injEq, Ending.commit.injEq] at rest
              obtain ⟨_, rfl⟩ := rest
              exact createAlert_mirrored env.now creation db _ _ (AlertMade.subject made) created
      | cancelAlert alert cancellation =>
          simp only [runEdit, bind_ok] at h
          obtain ⟨ending, cancelled, rest⟩ := h
          cases ending with
          | rollback outcome => simp [pure, Except.pure] at rest
          | commit outcome final =>
              simp only [pure, Except.pure, Except.ok.injEq, Ending.commit.injEq] at rest
              obtain ⟨_, rfl⟩ := rest
              exact cancelAlert_mirrored env.now alert cancellation db _ _
                (CancellationMade.subject made) cancelled
      | createConsumer row =>
          simp only [runEdit, PostgresConsumerRepository.create, bind_ok, pure, Except.pure,
            Except.ok.injEq, Ending.commit.injEq] at h
          obtain ⟨_, _, _, rfl⟩ := h
          exact .of_same rfl rfl rfl rfl rfl
      | createSubscription subscription =>
          simp only [runEdit, PostgresSubscriptionRepository.create, bind_ok, pure, Except.pure,
            Except.ok.injEq, Ending.commit.injEq] at h
          obtain ⟨_, _, _, rfl⟩ := h
          exact .of_same rfl rfl rfl rfl rfl
      | updateSubscription auditEventId subscription actor requestId =>
          simp only [runEdit, bind_ok] at h
          obtain ⟨ending, updated, rest⟩ := h
          cases ending with
          | rollback outcome => simp [pure, Except.pure] at rest
          | commit outcome final =>
              simp only [pure, Except.pure, Except.ok.injEq, Ending.commit.injEq] at rest
              obtain ⟨_, rfl⟩ := rest
              exact updateSubscription_mirrored _ _ _ _ db _ _ updated
      | deleteSubscription id =>
          simp only [runEdit, PostgresSubscriptionRepository.delete, Except.ok.injEq,
            Ending.commit.injEq] at h
          obtain ⟨_, rfl⟩ := h
          exact .of_same rfl rfl rfl rfl rfl
      | upsertPreference consumerId preference =>
          simp only [runEdit, PostgresDeliveryPreferenceRepository.upsert, Except.ok.injEq,
            Ending.commit.injEq] at h
          obtain ⟨_, rfl⟩ := h
          exact .of_same rfl rfl rfl rfl rfl
  | _ => exact .refl db

theorem alertViewed_mirrored (auditEventId actorId : Uuid) (organizationId : Option OrganizationId)
    (resourceId : Option Uuid) (requestId : Uuid) (fault : Bool) (db : Db) :
    Mirrored db ((Write.alertViewed auditEventId actorId organizationId resourceId requestId
      fault).run db) := by
  refine mirrored_transaction _ _ _ db fun _ after h => ?_
  simp only [PostgresAuditEventRepository.record, bind_ok, pure, Except.pure, Except.ok.injEq,
    Ending.commit.injEq] at h
  obtain ⟨auditEvents, inserted, _, rfl⟩ := h
  obtain ⟨rfl, _⟩ := insertUnique_ok _ _ _ _ _ inserted
  refine .of_audit _ rfl rfl rfl rfl rfl ?_
  intro aggregate same
  cases aggregate with
  | cases => simp [Aggregate.type] at same
  | alerts => simp [Aggregate.eventTypes, AlertEventType.asDatabaseValue]
  | deliveries => simp [Aggregate.type] at same

end Writers

/-- The tables of events, the outbox and the audit tell of the same events, each as often. -/
structure Complete (db : Db) : Prop where
  announced : ∀ aggregate,
    ((occurrences db aggregate).map Occurrence.announced : Multiset (Uuid × String)) =
      (announcements db.outboxEvents aggregate : Multiset (Uuid × String))
  audited : ∀ aggregate,
    ((occurrences db aggregate).map Occurrence.audited :
      Multiset (Option Uuid × String × String × Option Uuid)) =
      (audits db.auditEvents aggregate : Multiset (Option Uuid × String × String × Option Uuid))

theorem Mirrored.complete {db after : Db} (mirrored : Mirrored db after) (complete : Complete db) :
    Complete after := by
  constructor
  · intro aggregate
    obtain ⟨added, events, outbox, _⟩ := mirrored aggregate
    rw [events, outbox, List.map_append, ← Multiset.coe_add, ← Multiset.coe_add,
      complete.announced aggregate]
  · intro aggregate
    obtain ⟨added, events, _, audit⟩ := mirrored aggregate
    rw [events, audit, List.map_append, ← Multiset.coe_add, ← Multiset.coe_add,
      complete.audited aggregate]

/-- The stores that the writers' transactions lead to, in any order. -/
inductive Written (start : Db) : Db → Prop where
  | start : Written start start
  | write {db : Db} (write : Write) (made : write.Made) (reached : Written start db) :
      Written start (write.run db)

/-- However the writers interleave, no event misses its outbox row or its audit row, and neither is
there without its event. -/
theorem events_are_complete (start db : Db) (complete : Complete start) (reached : Written start db) :
    Complete db := by
  induction reached with
  | start => exact complete
  | write write made _ ih =>
      cases write with
      | request call env => exact (request_mirrored call env _ made).complete ih
      | delivery call env => exact (delivery_mirrored call env _ made).complete ih
      | alertViewed auditEventId actorId organizationId resourceId requestId fault =>
          exact (alertViewed_mirrored _ _ _ _ _ _ _).complete ih

namespace Scenario

def reported : Db :=
  { Db.empty with
    reports := [{ id := ⟨1⟩, sourceChannel := .web, rawContent := "A child is missing."
                  status := .received, followUpTokenHash := [], idempotencyKeyHash := none
                  reportedIncidentType := none }] }

def caseWritten : Write :=
  .request (.createCase (createCaseFromReport (fun draw => Fin.ofNat _ (100 + draw)) .missingChild
    ⟨1⟩ (.reviewer 5) 9))
    { now := 0, fault := false, tie := fun _ => 0, fieldTie := fun _ => 0, revoked := false
      withinLimit := true }

/-- A case is created, and somebody reads an alert. -/
theorem events_are_complete_case : ∃ db, db.caseEvents.length = 1 ∧ db.auditEvents.length = 2 ∧
    Complete db := by
  have start : Complete reported := by
    constructor
    · intro aggregate
      cases aggregate <;> rfl
    · intro aggregate
      cases aggregate <;> rfl
  have reached : Written reported
      ((Write.alertViewed 77 5 none (some 3) 9 false).run (caseWritten.run reported)) :=
    .write _ trivial (.write caseWritten ⟨_, _, _, _, _, rfl⟩ .start)
  exact ⟨_, by decide +kernel, by decide +kernel, events_are_complete reported _ start reached⟩

end Scenario

end SafeCameroon
