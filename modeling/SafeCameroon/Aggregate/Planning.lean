import SafeCameroon.Aggregate.Ledger

namespace SafeCameroon

open Table Optimistic DeliveryLife

def plannedRow (now : Timestamp) (item : PlannedDelivery) : DeliveryRow :=
  { id := item.delivery.id, alertId := item.delivery.alertId
    consumerId := item.delivery.consumerId, channel := item.delivery.channel
    endpointAddress := item.delivery.endpointAddress, tier := item.delivery.tier
    idempotencyKeyHash := item.idempotencyKeyHash
    matchingSubscriptions := matchedSubscriptionsToJson item.delivery.matchingSubscriptions
    status := item.delivery.status, attemptCount := item.delivery.attemptCount
    maxAttempts := item.delivery.retryPolicy.maxAttempts, aggregateVersion := item.delivery.version
    createdAt := now, updatedAt := now, nextAttemptAt := none }

structure PlannedDelivery.Fresh (item : PlannedDelivery) : Prop where
  status : item.delivery.status = .queued
  attemptCount : item.delivery.attemptCount = 0
  version : item.delivery.version = 1
  eventType : item.event.eventType = .deliveryRequested
  eventVersion : item.event.aggregateVersion = 1

theorem planDeliveriesDomain_fresh (fresh : Supply) (alert : Alert) (matched : List ConsumerMatch)
    (preferences : ConsumerId → Option DeliveryPreference) (policy : RetryPolicy)
    (planned : Delivery × DeliveryEvent)
    (member : planned ∈ planDeliveriesDomain fresh alert matched preferences policy) :
    ∃ target ∈ planTargets matched preferences, ∃ supply, planned = Delivery.planOne supply alert.id
      target.consumerMatch.consumerId target.endpoint target.tier
      target.consumerMatch.matchingSubscriptions policy := by
  simp only [planDeliveriesDomain, List.mem_map] at member
  obtain ⟨⟨target, index⟩, indexed, rfl⟩ := member
  exact ⟨target, List.fst_mem_of_mem_zipIdx indexed, _, rfl⟩

theorem planDeliveries_fresh (sha256 : String → Bytes) (fresh : Supply) (alert : Alert)
    (matched : List ConsumerMatch) (preferences : ConsumerId → Option DeliveryPreference)
    (policy : RetryPolicy) (actor : Actor) (requestId : Uuid) (item : PlannedDelivery)
    (member : item ∈ planDeliveries sha256 fresh alert matched preferences policy actor requestId) :
    item.Fresh := by
  simp only [planDeliveries, List.mem_map] at member
  obtain ⟨⟨planned, index⟩, indexed, rfl⟩ := member
  obtain ⟨target, _, supply, rfl⟩ := planDeliveriesDomain_fresh fresh alert matched preferences policy
    planned (List.fst_mem_of_mem_zipIdx indexed)
  exact ⟨rfl, rfl, rfl, rfl, rfl⟩

structure Inserted (now : Timestamp) (item : PlannedDelivery) (db after : Db) : Prop where
  bounded : item.delivery.retryPolicy.maxAttempts < 2 ^ 31
  unused : item.delivery.id ∉ db.deliveries.map (·.id)
  newKey : item.idempotencyKeyHash ∉ db.deliveries.map (·.idempotencyKeyHash)
  deliveries : after.deliveries = db.deliveries ++ [plannedRow now item]
  attempts : after.deliveryAttempts = db.deliveryAttempts
  events : ∃ row : DeliveryEventRow, row.deliveryId = item.delivery.id ∧
    row.eventType = item.event.eventType ∧ row.aggregateVersion = item.event.aggregateVersion ∧
    after.deliveryEvents = db.deliveryEvents ++ [row]
  outbox : ∃ row : OutboxRow, row.aggregateType = "DELIVERY" ∧
    row.aggregateId = item.delivery.id.uuid ∧
    row.eventType = item.event.eventType.asDatabaseValue ∧ row.claimedAt = none ∧
    row.publishedAt = none ∧ row.id ∉ db.outboxEvents.map (·.id) ∧
    after.outboxEvents = db.outboxEvents ++ [row]
  elsewhere : Db.SameElsewhere db after

theorem insertDelivery_effect (now : Timestamp) (item : PlannedDelivery) (db after : Db)
    (inserted : Bool) (h : insertDelivery now item db = .ok (inserted, after)) :
    (inserted = false ∧ item.idempotencyKeyHash ∈ db.deliveries.map (·.idempotencyKeyHash)) ∨
      (inserted = true ∧ item.delivery.retryPolicy.maxAttempts < 2 ^ 31 ∧
        item.delivery.id ∉ db.deliveries.map (·.id) ∧
        item.idempotencyKeyHash ∉ db.deliveries.map (·.idempotencyKeyHash) ∧
        after = { db with deliveries := db.deliveries ++ [plannedRow now item] }) := by
  simp only [insertDelivery] at h
  split at h
  · simp at h
  · rename_i small
    split at h
    · rename_i taken
      simp only [Except.ok.injEq, Prod.mk.injEq] at h
      exact Or.inl ⟨h.1.symm, taken⟩
    · rename_i newKey
      split at h
      · simp at h
      · simp only [bind_ok, pure, Except.pure, Except.ok.injEq, Prod.mk.injEq] at h
        obtain ⟨deliveries, added, rfl, rfl⟩ := h
        obtain ⟨rfl, unused⟩ := insertUnique_ok _ _ _ _ _ added
        exact Or.inr ⟨rfl, Nat.lt_of_not_le small, unused, newKey, rfl⟩

namespace PostgresDeliveryRepository

theorem createPlannedItem_effect (now : Timestamp) (item : PlannedDelivery) (db : Db)
    (ending : Ending Db Unit) (h : createPlannedItem now item db = .ok ending) :
    (ending = .rollback () ∧
      item.idempotencyKeyHash ∈ db.deliveries.map (·.idempotencyKeyHash)) ∨
      ∃ after, ending = .commit () after ∧ Inserted now item db after := by
  simp only [createPlannedItem, bind_ok] at h
  obtain ⟨⟨inserted, middle⟩, first, rest⟩ := h
  rcases insertDelivery_effect now item db middle inserted first with
    ⟨rfl, taken⟩ | ⟨rfl, bounded, unused, newKey, rfl⟩
  · simp only [Bool.false_eq_true, if_false, pure, Except.pure, Except.ok.injEq] at rest
    exact Or.inl ⟨rest.symm, taken⟩
  · simp only [if_true, bind_ok, pure, Except.pure, Except.ok.injEq] at rest
    obtain ⟨after, recorded, rfl⟩ := rest
    have effect := recordDeliveryEvent_effect _ _ _ _ _ _ _ _ _ _ recorded
    refine Or.inr ⟨after, rfl, ?_⟩
    exact
      { bounded, unused, newKey
        deliveries := effect.deliveries
        attempts := effect.attempts
        events := effect.events
        outbox := effect.outbox
        elsewhere := effect.elsewhere }

end PostgresDeliveryRepository

section Insertion

variable {now : Timestamp} {item : PlannedDelivery} {db after : Db}
  {transitions : DeliveryId → Nat}

theorem Inserted.rows (inserted : Inserted now item db after) (row : DeliveryRow) :
    row ∈ after.deliveries ↔ row ∈ db.deliveries ∨ row = plannedRow now item := by
  rw [inserted.deliveries, List.mem_append, List.mem_singleton]

theorem ledger_insert (ledger : Ledger db transitions) (fresh : item.Fresh)
    (inserted : Inserted now item db after) : Ledger after transitions := by
  obtain ⟨added, subject, type, number, appended⟩ := inserted.events
  have ids : after.deliveries.map (·.id) = db.deliveries.map (·.id) ++ [item.delivery.id] := by
    rw [inserted.deliveries, List.map_append]
    rfl
  have unseen : ∀ event ∈ db.deliveryEvents, event.deliveryId ≠ item.delivery.id :=
    fun event member equal => inserted.unused (equal ▸ ledger.events_known event member)
  have untried : ∀ attempt ∈ db.deliveryAttempts, attempt.deliveryId ≠ item.delivery.id :=
    fun attempt member equal => inserted.unused (equal ▸ ledger.attempts_known attempt member)
  refine ⟨?_, ?_, ?_, ?_, ?_, ?_⟩
  · rw [ids, List.nodup_append]
    refine ⟨ledger.distinct, List.nodup_singleton _, ?_⟩
    intro id member last same equal
    rw [List.mem_singleton] at same
    exact inserted.unused (same ▸ equal ▸ member)
  · intro event member
    rw [appended, List.mem_append, List.mem_singleton] at member
    rw [ids, List.mem_append]
    rcases member with old | rfl
    · exact Or.inl (ledger.events_known event old)
    · exact Or.inr (by simp [subject])
  · intro attempt member
    rw [inserted.attempts] at member
    rw [ids, List.mem_append]
    exact Or.inl (ledger.attempts_known attempt member)
  · intro id absent
    rw [ids, List.mem_append, not_or] at absent
    exact ledger.unplanned id absent.1
  · intro row member
    rcases (inserted.rows row).mp member with old | rfl
    · exact ledger.readable row old
    · exact ⟨⟨_, rfl⟩, item.delivery.retryPolicy.positive, inserted.bounded⟩
  · intro row member
    rcases (inserted.rows row).mp member with old | rfl
    · obtain ⟨log, told⟩ := ledger.tells row old
      have differs : row.id ≠ item.delivery.id :=
        fun equal => inserted.unused (equal ▸ List.mem_map_of_mem old)
      refine ⟨log, told.counted, told.sound, ?_, ?_⟩
      · rw [← told.events]
        simp [eventsOf, appended, List.filter_append, subject, Ne.symm differs]
      · rw [← told.attempts, attemptsOf, attemptsOf, inserted.attempts]
    · refine ⟨[], ?_, ?_, ?_, ?_⟩
      · exact ledger.unplanned _ inserted.unused
      · have life : (plannedRow now item).life = requested := by
          simp [plannedRow, DeliveryRow.life, requested, fresh.status, fresh.attemptCount]
        exact ⟨fresh.version, life ▸ .start⟩
      · simp [eventsOf, plannedRow, appended, List.filter_append, subject, type, number,
          fresh.eventType, fresh.eventVersion, eventColumns]
        exact fun event member => decide_eq_false (unseen event member)
      · simp [attemptsOf, plannedRow, inserted.attempts, DeliveryLife.attemptsOf]
        exact fun attempt member => decide_eq_false (untried attempt member)

theorem stale_insert (reader : Delivery) (stale : Stale db reader)
    (inserted : Inserted now item db after) : Stale after reader := by
  obtain ⟨row, member, rest⟩ := stale
  exact ⟨row, (inserted.rows row).mpr (Or.inl member), rest⟩

end Insertion

end SafeCameroon
