import SafeCameroon.Postgres.Alerts

namespace SafeCameroon

open Table

def auditRow (resourceType : String) (auditEventId : Uuid) (actor : Actor) (action : String)
    (resourceId requestId : Uuid) (db : Db) : AuditRow :=
  { id := auditEventId
    actorType := actor.asDatabaseValue
    actorId := actor.actorId
    organizationId := organizationIdForActor actor.actorId db
    action, resourceType, resourceId := some resourceId, requestId }

def outboxRow (now : Timestamp) (aggregateType : String) (outboxEventId aggregateId : Uuid)
    (eventType : String) (payload : Json) : OutboxRow :=
  { id := outboxEventId, aggregateType, aggregateId, eventType, payload
    createdAt := now, publishedAt := none, claimedAt := none }

theorem insertAuditEvent_ok (resourceType : String) (auditEventId : Uuid) (actor : Actor)
    (action : String) (resourceId requestId : Uuid) (db after : Db)
    (h : insertAuditEvent resourceType auditEventId actor action resourceId requestId db = .ok after) :
    after = { db with auditEvents := db.auditEvents ++
      [auditRow resourceType auditEventId actor action resourceId requestId db] } ∧
      auditEventId ∉ db.auditEvents.map (·.id) := by
  simp only [insertAuditEvent, bind_ok, pure, Except.pure, Except.ok.injEq] at h
  obtain ⟨auditEvents, inserted, rfl⟩ := h
  obtain ⟨rfl, unused⟩ := insertUnique_ok _ _ _ _ _ inserted
  exact ⟨rfl, unused⟩

theorem insertAuditEvent_new (resourceType : String) (auditEventId : Uuid) (actor : Actor)
    (action : String) (resourceId requestId : Uuid) (db : Db)
    (unused : auditEventId ∉ db.auditEvents.map (·.id)) :
    insertAuditEvent resourceType auditEventId actor action resourceId requestId db =
      .ok { db with auditEvents := db.auditEvents ++
        [auditRow resourceType auditEventId actor action resourceId requestId db] } := by
  simp only [insertAuditEvent, bind_ok]
  exact ⟨_, insertUnique_new _ _ _ _ unused, rfl⟩

theorem insertOutboxEvent_ok (now : Timestamp) (aggregateType : String)
    (outboxEventId aggregateId : Uuid) (eventType : String) (payload : Json) (db after : Db)
    (h : insertOutboxEvent now aggregateType outboxEventId aggregateId eventType payload db
      = .ok after) :
    after = { db with outboxEvents := db.outboxEvents ++
      [outboxRow now aggregateType outboxEventId aggregateId eventType payload] } ∧
      outboxEventId ∉ db.outboxEvents.map (·.id) := by
  simp only [insertOutboxEvent, bind_ok, pure, Except.pure, Except.ok.injEq] at h
  obtain ⟨outboxEvents, inserted, rfl⟩ := h
  obtain ⟨rfl, unused⟩ := insertUnique_ok _ _ _ _ _ inserted
  exact ⟨rfl, unused⟩

theorem insertOutboxEvent_new (now : Timestamp) (aggregateType : String)
    (outboxEventId aggregateId : Uuid) (eventType : String) (payload : Json) (db : Db)
    (unused : outboxEventId ∉ db.outboxEvents.map (·.id)) :
    insertOutboxEvent now aggregateType outboxEventId aggregateId eventType payload db =
      .ok { db with outboxEvents := db.outboxEvents ++
        [outboxRow now aggregateType outboxEventId aggregateId eventType payload] } := by
  simp only [insertOutboxEvent, bind_ok]
  exact ⟨_, insertUnique_new _ _ _ _ unused, rfl⟩

def alertEventRow (event : AlertEvent) (actor : Actor) : AlertEventRow :=
  { id := event.id, alertId := event.alertId, eventType := event.eventType
    aggregateVersion := event.aggregateVersion
    actorType := actor.asDatabaseValue, actorId := actor.actorId }

theorem insertAlertEvent_ok (event : AlertEvent) (actor : Actor) (db after : Db)
    (h : insertAlertEvent event actor db = .ok after) :
    after = { db with alertEvents := db.alertEvents ++ [alertEventRow event actor] } ∧
      (event.alertId, event.aggregateVersion) ∉
        db.alertEvents.map (fun row => (row.alertId, row.aggregateVersion)) := by
  simp only [insertAlertEvent, bind_ok, pure, Except.pure, Except.ok.injEq] at h
  obtain ⟨_, versioned, alertEvents, inserted, rfl⟩ := h
  obtain ⟨rfl, _⟩ := insertUnique_ok _ _ _ _ _ inserted
  obtain ⟨_, unused⟩ := insertUnique_ok _ _ _ _ _ versioned
  exact ⟨rfl, unused⟩

theorem insertAlertFields_ok (alertId : AlertId) (fields : List AlertFieldValue) (db after : Db)
    (h : insertAlertFields alertId fields db = .ok after) :
    after = { db with alertFields := after.alertFields } := by
  induction fields generalizing db with
  | nil =>
      obtain rfl : db = after := by simpa [insertAlertFields] using h
      rfl
  | cons field fields ih =>
      simp only [insertAlertFields] at h
      split at h
      · simp at h
      · simp only [bind_ok] at h
        obtain ⟨alertFields, _, rest⟩ := h
        have later := ih _ rest
        rw [later]

abbrev AlertInserted (creation : AlertCreation) (db : Db) :
    Option AlertId → List AlertRow → Prop :=
  Keyed.Inserted (·.idempotencyKeyHash) (·.id) (alertRow creation) db.alerts

theorem addAlertRow_ok (db : Db) (row : AlertRow) (alerts after : List AlertRow)
    (h : addAlertRow db row alerts = .ok after) :
    after = alerts ++ [row] ∧ row.id ∉ alerts.map (·.id) ∧ row.caseId ∈ db.cases.map (·.id) := by
  simp only [addAlertRow] at h
  split at h
  · simp at h
  · rename_i known
    split at h
    · simp at h
    · obtain ⟨appended, unused⟩ := insertUnique_ok _ _ _ _ _ h
      exact ⟨appended, unused, not_not.mp known⟩

theorem insertAlert_ok (creation : AlertCreation) (db after : Db) (duplicate : Option AlertId)
    (h : insertAlert creation db = .ok (duplicate, after)) :
    ∃ alerts, after = { db with alerts } ∧ AlertInserted creation db duplicate alerts ∧
      (Keyed.taken (·.idempotencyKeyHash) (alertRow creation) db.alerts = false →
        creation.alert.id ∉ db.alerts.map (·.id) ∧ creation.alert.caseId ∈ db.cases.map (·.id)) := by
  unfold insertAlert at h
  split at h
  case isFalse => simp at h
  simp only [bind_ok, pure, Except.pure, Except.ok.injEq, Prod.mk.injEq] at h
  obtain ⟨⟨existing, alerts⟩, inserted, rfl, rfl⟩ := h
  obtain ⟨insertion, added⟩ := Keyed.insert_ok _ _ _ _ _ _ _
    (fun after added => (addAlertRow_ok db _ _ after added).1) inserted
  refine ⟨alerts, rfl, insertion, fun free => ?_⟩
  exact (addAlertRow_ok db _ _ alerts (added free)).2

namespace PostgresAlertRepository

/-- What committing a new alert does: its row, unless it was there, its event, its audit row and an
outbox row that nobody claimed yet. -/
structure Created (now : Timestamp) (creation : AlertCreation) (db after : Db) : Prop where
  inserted : AlertInserted creation db none after.alerts
  fresh : Keyed.taken (·.idempotencyKeyHash) (alertRow creation) db.alerts = false →
    creation.alert.id ∉ db.alerts.map (·.id) ∧ creation.alert.caseId ∈ db.cases.map (·.id)
  events : after.alertEvents = db.alertEvents ++ [alertEventRow creation.event creation.actor]
  unnumbered : (creation.event.alertId, creation.event.aggregateVersion) ∉
    db.alertEvents.map fun row => (row.alertId, row.aggregateVersion)
  audit : after.auditEvents = db.auditEvents ++
    [auditRow "ALERT" creation.auditEventId creation.actor creation.event.eventType.asDatabaseValue
      creation.alert.id.uuid creation.requestId db]
  outbox : after.outboxEvents = db.outboxEvents ++
    [outboxRow now "ALERT" creation.outboxEventId creation.alert.id.uuid
      creation.event.eventType.asDatabaseValue (alertCreatedEventPayload creation)]
  unused : creation.outboxEventId ∉ db.outboxEvents.map (·.id)
  elsewhere : after = { db with
    alerts := after.alerts, alertFields := after.alertFields, alertEvents := after.alertEvents
    auditEvents := after.auditEvents, outboxEvents := after.outboxEvents }

theorem create_effect (now : Timestamp) (creation : AlertCreation) (db after : Db)
    (outcome : AlertCreationOutcome) (h : create now creation db = .ok (.commit outcome after)) :
    outcome = .created ∧ Created now creation db after := by
  simp only [create, bind_ok] at h
  obtain ⟨⟨duplicate, middle⟩, inserted, rest⟩ := h
  obtain ⟨alerts, rfl, insertion, fresh⟩ := insertAlert_ok _ _ _ _ inserted
  cases duplicate with
  | some alertId => simp [pure, Except.pure] at rest
  | none =>
      simp only [bind_ok, pure, Except.pure, Except.ok.injEq, Ending.commit.injEq] at rest
      obtain ⟨first, fields, second, event, third, audit, fourth, outbox, rfl, rfl⟩ := rest
      have fields := insertAlertFields_ok _ _ _ _ fields
      obtain ⟨rfl, unnumbered⟩ := insertAlertEvent_ok _ _ _ _ event
      obtain ⟨rfl, _⟩ := insertAuditEvent_ok _ _ _ _ _ _ _ _ audit
      obtain ⟨rfl, unused⟩ := insertOutboxEvent_ok _ _ _ _ _ _ _ _ outbox
      rw [fields] at unnumbered unused
      rw [fields]
      exact ⟨rfl, insertion, fresh, rfl, unnumbered, rfl, rfl, unused, rfl⟩

theorem create_duplicate (now : Timestamp) (creation : AlertCreation) (db : Db)
    (outcome : AlertCreationOutcome) (h : create now creation db = .ok (.rollback outcome)) :
    ∃ hash alertId, outcome = .duplicate alertId ∧ creation.idempotencyKeyHash = some hash ∧
      Keyed.idByKey (·.idempotencyKeyHash) (·.id) hash db.alerts = some alertId ∧
      alertId ≠ creation.alert.id := by
  simp only [create, bind_ok] at h
  obtain ⟨⟨duplicate, middle⟩, inserted, rest⟩ := h
  obtain ⟨_, _, insertion, _⟩ := insertAlert_ok _ _ _ _ inserted
  cases duplicate with
  | some alertId =>
      simp only [pure, Except.pure, Except.ok.injEq, Ending.rollback.injEq] at rest
      cases insertion with
      | other key stored differs => exact ⟨_, alertId, rest.symm, key, stored, differs⟩
  | none =>
      simp only [bind_ok, pure, Except.pure, Except.ok.injEq, reduceCtorEq, and_false,
        exists_false] at rest

def cancelledRow (alert : Alert) (row : AlertRow) : AlertRow :=
  { row with status := alert.status, aggregateVersion := alert.version }

/-- What committing a cancellation does: the status of the alert, its event, an audit row and an
outbox row. -/
structure Cancelled (now : Timestamp) (alert : Alert) (cancellation : AlertCancellation)
    (db after : Db) : Prop where
  matched : ∃ row ∈ db.alerts, row.id = alert.id ∧ row.aggregateVersion + 1 = alert.version
  alerts : after.alerts = updateWhere
    (fun row => decide (row.id = alert.id) && decide (row.aggregateVersion + 1 = alert.version))
    (cancelledRow alert) db.alerts
  events : after.alertEvents = db.alertEvents ++
    [alertEventRow cancellation.event cancellation.actor]
  unnumbered : (cancellation.event.alertId, cancellation.event.aggregateVersion) ∉
    db.alertEvents.map fun row => (row.alertId, row.aggregateVersion)
  audit : after.auditEvents = db.auditEvents ++
    [auditRow "ALERT" cancellation.auditEventId cancellation.actor
      cancellation.event.eventType.asDatabaseValue alert.id.uuid cancellation.requestId db]
  outbox : after.outboxEvents = db.outboxEvents ++
    [outboxRow now "ALERT" cancellation.outboxEventId alert.id.uuid
      cancellation.event.eventType.asDatabaseValue (alertCancelledEventPayload alert cancellation)]
  unused : cancellation.outboxEventId ∉ db.outboxEvents.map (·.id)
  elsewhere : after = { db with
    alerts := after.alerts, alertEvents := after.alertEvents
    auditEvents := after.auditEvents, outboxEvents := after.outboxEvents }

theorem cancel_effect (now : Timestamp) (alert : Alert) (cancellation : AlertCancellation)
    (db after : Db) (outcome : AlertCancelOutcome)
    (h : cancel now alert cancellation db = .ok (.commit outcome after)) :
    outcome = .cancelled ∧ Cancelled now alert cancellation db after := by
  simp only [cancel] at h
  split at h
  · rename_i single
    simp only [bind_ok, pure, Except.pure, Except.ok.injEq, Ending.commit.injEq] at h
    obtain ⟨first, event, second, audit, third, outbox, rfl, rfl⟩ := h
    obtain ⟨rfl, unnumbered⟩ := insertAlertEvent_ok _ _ _ _ event
    obtain ⟨rfl, _⟩ := insertAuditEvent_ok _ _ _ _ _ _ _ _ audit
    obtain ⟨rfl, unused⟩ := insertOutboxEvent_ok _ _ _ _ _ _ _ _ outbox
    have positive : 0 < db.alerts.countP fun row =>
        decide (row.id = alert.id) && decide (row.aggregateVersion + 1 = alert.version) := by
      omega
    obtain ⟨row, member, selected⟩ := List.countP_pos_iff.mp positive
    have facts : row.id = alert.id ∧ row.aggregateVersion + 1 = alert.version := by
      simpa using selected
    exact ⟨rfl, ⟨row, member, facts⟩, rfl, rfl, unnumbered, rfl, rfl, unused, rfl⟩
  · simp [pure, Except.pure] at h

theorem cancel_conflict (now : Timestamp) (alert : Alert) (cancellation : AlertCancellation)
    (db : Db) (outcome : AlertCancelOutcome)
    (h : cancel now alert cancellation db = .ok (.rollback outcome)) : outcome = .conflict := by
  simp only [cancel] at h
  split at h
  · simp only [bind_ok, pure, Except.pure, Except.ok.injEq, reduceCtorEq, and_false,
      exists_false] at h
  · simpa [pure, Except.pure, eq_comm] using h

end PostgresAlertRepository

end SafeCameroon
