import SafeCameroon.Aggregate.DeliveryLife

namespace SafeCameroon

open Table DeliveryLife

@[simp] theorem deliveryAttemptRow_deliveryId (attempt : DeliveryAttempt) :
    (deliveryAttemptRow attempt).deliveryId = attempt.deliveryId := by
  unfold deliveryAttemptRow
  split <;> rfl

@[simp] theorem deliveryAttemptRow_attemptNumber (attempt : DeliveryAttempt) :
    (deliveryAttemptRow attempt).attemptNumber = attempt.attemptNumber := by
  unfold deliveryAttemptRow
  split <;> rfl

namespace Delivery

def life (delivery : Delivery) : State :=
  { status := delivery.status, attemptCount := delivery.attemptCount }

/-- One domain transition of a delivery, with what it records. -/
structure Moves (before after : Delivery) (event : DeliveryEvent)
    (attempt : Option DeliveryAttempt) : Prop where
  fixed : after = { before with
    status := after.status, attemptCount := after.attemptCount, version := before.version + 1 }
  subject : event.deliveryId = before.id
  numbered : event.aggregateVersion = before.version + 1
  owner : ∀ recorded ∈ attempt, recorded.deliveryId = before.id
  step : Step before.retryPolicy.maxAttempts before.life
    ⟨event.eventType, attempt.map deliveryAttemptRow⟩ after.life

theorem startAttempt_moves (fresh : Supply) (before after : Delivery) (event : DeliveryEvent)
    (h : before.startAttempt fresh = .ok (after, event)) : Moves before after event none := by
  by_cases ready : before.status = .queued ∨ before.status = .retrying
  · simp only [startAttempt, ready, if_true, Except.ok.injEq, Prod.mk.injEq] at h
    obtain ⟨rfl, rfl⟩ := h
    exact ⟨rfl, rfl, rfl, by simp, .start ready⟩
  · simp [startAttempt, ready] at h

theorem recordSuccess_moves (fresh : Supply) (providerMessageId : Option String)
    (before after : Delivery) (event : DeliveryEvent) (attempt : DeliveryAttempt)
    (h : before.recordSuccess fresh providerMessageId = .ok (after, event, attempt)) :
    Moves before after event (some attempt) := by
  by_cases inFlight : before.status = .sending
  · simp only [recordSuccess, inFlight, if_true, Except.ok.injEq, Prod.mk.injEq] at h
    obtain ⟨rfl, rfl, rfl⟩ := h
    exact ⟨rfl, rfl, rfl, by simp, .success inFlight rfl rfl⟩
  · simp [recordSuccess, inFlight] at h

theorem recordDelivered_moves (fresh : Supply) (before after : Delivery) (event : DeliveryEvent)
    (h : before.recordDelivered fresh = .ok (after, event)) : Moves before after event none := by
  by_cases sent : before.status = .sent
  · simp only [recordDelivered, sent, if_true, Except.ok.injEq, Prod.mk.injEq] at h
    obtain ⟨rfl, rfl⟩ := h
    exact ⟨rfl, rfl, rfl, by simp, .delivered sent⟩
  · simp [recordDelivered, sent] at h

theorem recordFailure_moves (fresh : Supply) (retryable : Bool) (reason : String)
    (before after : Delivery) (event : DeliveryEvent) (attempt : DeliveryAttempt)
    (h : before.recordFailure fresh retryable reason = .ok (after, event, attempt)) :
    Moves before after event (some attempt) := by
  by_cases inFlight : before.status = .sending
  · simp only [recordFailure, inFlight, if_true, Except.ok.injEq, Prod.mk.injEq] at h
    obtain ⟨rfl, rfl, rfl⟩ := h
    refine ⟨rfl, rfl, rfl, by simp, ?_⟩
    by_cases willRetry : (retryable && decide
        (before.attemptCount < before.retryPolicy.maxAttempts)) = true
    · have remaining : before.attemptCount < before.retryPolicy.maxAttempts := by
        simp only [Bool.and_eq_true, decide_eq_true_eq] at willRetry
        exact willRetry.2
      simp only [willRetry, if_true]
      exact .retry inFlight rfl rfl remaining
    · simp only [willRetry, if_false, Bool.false_eq_true]
      exact .failure inFlight rfl rfl
  · simp [recordFailure, inFlight] at h

end Delivery

/-- Only the tables that delivery writes touch differ. -/
def Db.SameElsewhere (db after : Db) : Prop :=
  after = { db with
    deliveries := after.deliveries
    deliveryAttempts := after.deliveryAttempts
    deliveryEvents := after.deliveryEvents
    outboxEvents := after.outboxEvents
    auditEvents := after.auditEvents }

structure Recorded (deliveryId : DeliveryId) (event : DeliveryEvent) (db after : Db) : Prop where
  deliveries : after.deliveries = db.deliveries
  attempts : after.deliveryAttempts = db.deliveryAttempts
  events : ∃ row : DeliveryEventRow, row.deliveryId = deliveryId ∧
    row.eventType = event.eventType ∧ row.aggregateVersion = event.aggregateVersion ∧
    after.deliveryEvents = db.deliveryEvents ++ [row]
  outbox : ∃ row : OutboxRow, row.aggregateType = "DELIVERY" ∧ row.aggregateId = deliveryId.uuid ∧
    row.eventType = event.eventType.asDatabaseValue ∧ row.claimedAt = none ∧
    row.publishedAt = none ∧ row.id ∉ db.outboxEvents.map (·.id) ∧
    after.outboxEvents = db.outboxEvents ++ [row]
  elsewhere : Db.SameElsewhere db after

theorem recordDeliveryEvent_effect (now : Timestamp) (delivery : Delivery) (event : DeliveryEvent)
    (actor : Actor) (auditEventId outboxEventId requestId : Uuid) (payload : Json) (db after : Db)
    (h : recordDeliveryEvent now delivery event actor auditEventId outboxEventId requestId payload db
      = .ok after) : Recorded delivery.id event db after := by
  simp only [recordDeliveryEvent, insertDeliveryEvent, insertAuditEvent, insertOutboxEvent,
    bind_ok, pure, Except.pure, Except.ok.injEq] at h
  obtain ⟨_, ⟨_, _, deliveryEvents, inserted, rfl⟩, _, ⟨auditEvents, _, rfl⟩, outboxEvents, sent,
    rfl⟩ := h
  obtain ⟨rfl, _⟩ := insertUnique_ok _ _ _ _ _ inserted
  obtain ⟨rfl, unused⟩ := insertUnique_ok _ _ _ _ _ sent
  exact
    { deliveries := rfl
      attempts := rfl
      events := ⟨_, rfl, rfl, rfl, rfl⟩
      outbox := ⟨_, rfl, rfl, rfl, rfl, rfl, unused, rfl⟩
      elsewhere := rfl }

structure Recordable (deliveryId : DeliveryId) (version : Nat)
    (eventId auditEventId outboxEventId : Uuid) (db : Db) : Prop where
  version : (deliveryId, version) ∉
    db.deliveryEvents.map fun row => (row.deliveryId, row.aggregateVersion)
  event : eventId ∉ db.deliveryEvents.map (·.id)
  audit : auditEventId ∉ db.auditEvents.map (·.id)
  outbox : outboxEventId ∉ db.outboxEvents.map (·.id)

theorem recordDeliveryEvent_recordable (now : Timestamp) (delivery : Delivery) (event : DeliveryEvent)
    (actor : Actor) (auditEventId outboxEventId requestId : Uuid) (payload : Json) (db : Db) :
    (∃ after, recordDeliveryEvent now delivery event actor auditEventId outboxEventId requestId payload
      db = .ok after) ↔
      Recordable delivery.id event.aggregateVersion event.id auditEventId outboxEventId db := by
  constructor
  · intro ⟨after, h⟩
    simp only [recordDeliveryEvent, insertDeliveryEvent, insertAuditEvent, insertOutboxEvent,
      bind_ok, pure, Except.pure, Except.ok.injEq] at h
    obtain ⟨_, ⟨_, numbered, _, event, rfl⟩, _, ⟨_, audit, rfl⟩, _, outbox, _⟩ := h
    constructor
    · exact (insertUnique_ok _ _ _ _ _ numbered).2
    · exact (insertUnique_ok _ _ _ _ _ event).2
    · exact (insertUnique_ok _ _ _ _ _ audit).2
    · exact (insertUnique_ok _ _ _ _ _ outbox).2
  · intro free
    simp only [recordDeliveryEvent, insertDeliveryEvent, insertAuditEvent, insertOutboxEvent]
    rw [insertUnique_new _ _ _ _ free.version, insertUnique_new _ _ _ _ free.event]
    simp only [bind, Except.bind, pure, Except.pure]
    rw [insertUnique_new _ _ _ _ free.audit]
    simp only []
    rw [insertUnique_new _ _ _ _ free.outbox]
    exact ⟨_, rfl⟩

theorem recordDeliveryEvent_error (now : Timestamp) (delivery : Delivery) (event : DeliveryEvent)
    (actor : Actor) (auditEventId outboxEventId requestId : Uuid) (payload : Json) (db : Db)
    (failure : Failure)
    (h : recordDeliveryEvent now delivery event actor auditEventId outboxEventId requestId payload db
      = .error failure) : failure = .database := by
  simp only [recordDeliveryEvent, insertDeliveryEvent, insertAuditEvent, insertOutboxEvent,
    bind_error, bind_ok, pure, Except.pure, reduceCtorEq, and_false, exists_false, or_false] at h
  rcases h with (failed | ⟨_, _, failed⟩) | ⟨_, _, failed | ⟨_, _, failed⟩⟩
  all_goals exact insertUnique_error _ _ _ _ _ failed

/-- What a committed transition of a delivery does to the tables. -/
structure Advanced (now : Timestamp) (delivery : Delivery) (event : DeliveryEvent)
    (attempt : Option DeliveryAttempt) (db after : Db) : Prop where
  matched : ∃ row ∈ db.deliveries, row.id = delivery.id ∧ row.aggregateVersion + 1 = delivery.version
  deliveries : after.deliveries = (advanceDelivery now delivery db).2.deliveries
  attempts : after.deliveryAttempts =
    db.deliveryAttempts ++ (attempt.map deliveryAttemptRow).toList
  events : ∃ row : DeliveryEventRow, row.deliveryId = delivery.id ∧
    row.eventType = event.eventType ∧ row.aggregateVersion = event.aggregateVersion ∧
    after.deliveryEvents = db.deliveryEvents ++ [row]
  outbox : ∃ row : OutboxRow, row.aggregateType = "DELIVERY" ∧ row.aggregateId = delivery.id.uuid ∧
    row.eventType = event.eventType.asDatabaseValue ∧ row.claimedAt = none ∧
    row.publishedAt = none ∧ row.id ∉ db.outboxEvents.map (·.id) ∧
    after.outboxEvents = db.outboxEvents ++ [row]
  elsewhere : Db.SameElsewhere db after

theorem advanceDelivery_matched (now : Timestamp) (delivery : Delivery) (db : Db)
    (h : (advanceDelivery now delivery db).1 = true) :
    ∃ row ∈ db.deliveries, row.id = delivery.id ∧
      row.aggregateVersion + 1 = delivery.version := by
  simp only [advanceDelivery, decide_eq_true_eq] at h
  have positive := List.countP_pos_iff.mp (by rw [h]; decide)
  obtain ⟨row, member, selected⟩ := positive
  simp only [Bool.and_eq_true, decide_eq_true_eq] at selected
  exact ⟨row, member, selected.1, selected.2⟩

theorem advanced_of_recorded (now : Timestamp) (delivery : Delivery) (event : DeliveryEvent)
    (db after : Db) (advanced : (advanceDelivery now delivery db).1 = true)
    (recorded : Recorded delivery.id event (advanceDelivery now delivery db).2 after) :
    Advanced now delivery event none db after where
  matched := advanceDelivery_matched now delivery db advanced
  deliveries := recorded.deliveries
  attempts := by simpa [advanceDelivery] using recorded.attempts
  events := recorded.events
  outbox := recorded.outbox
  elsewhere := recorded.elsewhere

namespace PostgresDeliveryRepository

theorem applyTransition_effect (now : Timestamp) (delivery : Delivery)
    (transition : DeliveryTransition) (db : Db) (ending : Ending Db DeliveryTransitionOutcome)
    (h : applyTransition now delivery transition db = .ok ending) :
    (ending = .rollback .conflict ∧ (advanceDelivery now delivery db).1 = false) ∨
      ∃ after, ending = .commit .applied after ∧
        Advanced now delivery transition.event none db after := by
  simp only [applyTransition] at h
  by_cases advanced : (advanceDelivery now delivery db).1 = true
  · simp only [advanced, if_true, bind_ok, pure, Except.pure, Except.ok.injEq] at h
    obtain ⟨after, recorded, rfl⟩ := h
    exact Or.inr ⟨after, rfl, advanced_of_recorded now delivery _ db after advanced
      (recordDeliveryEvent_effect _ _ _ _ _ _ _ _ _ _ recorded)⟩
  · simp only [advanced, if_false, Bool.false_eq_true, pure, Except.pure, Except.ok.injEq] at h
    exact Or.inl ⟨h.symm, by simpa using advanced⟩

theorem applyAttemptTransition_effect (now : Timestamp) (delivery : Delivery)
    (transition : DeliveryAttemptTransition) (db : Db)
    (ending : Ending Db DeliveryTransitionOutcome)
    (h : applyAttemptTransition now delivery transition db = .ok ending) :
    (ending = .rollback .conflict ∧ (advanceDelivery now delivery db).1 = false) ∨
      ∃ after, ending = .commit .applied after ∧
        Advanced now delivery transition.event (some transition.attempt) db after := by
  simp only [applyAttemptTransition] at h
  by_cases advanced : (advanceDelivery now delivery db).1 = true
  · simp only [advanced, if_true, insertDeliveryAttempt, bind_ok, pure, Except.pure,
      Except.ok.injEq] at h
    obtain ⟨_, ⟨_, _, deliveryAttempts, inserted, rfl⟩, after, recorded, rfl⟩ := h
    obtain ⟨rfl, _⟩ := insertUnique_ok _ _ _ _ _ inserted
    have effect := recordDeliveryEvent_effect _ _ _ _ _ _ _ _ _ _ recorded
    refine Or.inr ⟨after, rfl, ?_⟩
    exact
      { matched := advanceDelivery_matched now delivery db advanced
        deliveries := effect.deliveries
        attempts := effect.attempts
        events := effect.events
        outbox := effect.outbox
        elsewhere := effect.elsewhere }
  · simp only [advanced, if_false, Bool.false_eq_true, pure, Except.pure, Except.ok.injEq] at h
    exact Or.inl ⟨h.symm, by simpa using advanced⟩

end PostgresDeliveryRepository

end SafeCameroon
