import SafeCameroon.Aggregate.AlertEffects
import SafeCameroon.Aggregate.Batch
import SafeCameroon.Delivery.Calls

namespace SafeCameroon

open Table

/-- The three delivery tables are as they were. -/
structure Db.SameDeliveries (db after : Db) : Prop where
  deliveries : after.deliveries = db.deliveries
  attempts : after.deliveryAttempts = db.deliveryAttempts
  events : after.deliveryEvents = db.deliveryEvents

theorem Db.SameDeliveries.refl (db : Db) : db.SameDeliveries db := ⟨rfl, rfl, rfl⟩

namespace Call

def moved : (call : Call) → Except Failure call.Res → List DeliveryId
  | .lockAndStart _ _, .ok claimed => claimed.map (·.id)
  | .applyTransition delivery _, .ok .applied => [delivery.id]
  | .applyAttemptTransition delivery _, .ok .applied => [delivery.id]
  | _, _ => []

def obtained : (call : Call) → Except Failure call.Res → List Delivery
  | .lockAndStart _ _, .ok claimed => claimed
  | .findDelivery _, .ok (some delivery) => [delivery]
  | .findDeliveriesByAlert _, .ok deliveries => deliveries
  | _, _ => []

end Call

theorem transaction_sameDeliveries {α : Type} (fault : Bool)
    (body : Db → Except Failure (Ending Db α)) (db : Db)
    (quiet : ∀ value after, body db = .ok (.commit value after) → db.SameDeliveries after) :
    db.SameDeliveries (transaction fault .database body db).2 :=
  transaction_related Db.SameDeliveries .refl fault .database body db quiet

theorem runEdit_sameDeliveries (env : Env) (edit : Edit) (db after : Db) (value : Unit)
    (h : runEdit env edit db = .ok (.commit value after)) : db.SameDeliveries after := by
  cases edit with
  | createAlert creation =>
      simp only [runEdit, bind_ok] at h
      obtain ⟨ending, created, rest⟩ := h
      cases ending with
      | rollback outcome => simp [pure, Except.pure] at rest
      | commit outcome final =>
          simp only [pure, Except.pure, Except.ok.injEq, Ending.commit.injEq] at rest
          obtain ⟨_, rfl⟩ := rest
          have effect := (PostgresAlertRepository.create_effect _ _ _ _ _ created).2
          rw [effect.elsewhere]
          exact ⟨rfl, rfl, rfl⟩
  | cancelAlert alert cancellation =>
      simp only [runEdit, bind_ok] at h
      obtain ⟨ending, cancelled, rest⟩ := h
      cases ending with
      | rollback outcome => simp [pure, Except.pure] at rest
      | commit outcome final =>
          simp only [pure, Except.pure, Except.ok.injEq, Ending.commit.injEq] at rest
          obtain ⟨_, rfl⟩ := rest
          have effect := (PostgresAlertRepository.cancel_effect _ _ _ _ _ _ cancelled).2
          rw [effect.elsewhere]
          exact ⟨rfl, rfl, rfl⟩
  | createConsumer row =>
      simp only [runEdit, PostgresConsumerRepository.create, bind_ok, pure, Except.pure,
        Except.ok.injEq, Ending.commit.injEq] at h
      obtain ⟨_, _, _, rfl⟩ := h
      exact ⟨rfl, rfl, rfl⟩
  | createSubscription subscription =>
      simp only [runEdit, PostgresSubscriptionRepository.create, bind_ok, pure, Except.pure,
        Except.ok.injEq, Ending.commit.injEq] at h
      obtain ⟨_, _, _, rfl⟩ := h
      exact ⟨rfl, rfl, rfl⟩
  | updateSubscription auditEventId subscription actor requestId =>
      simp only [runEdit, bind_ok] at h
      obtain ⟨ending, updated, rest⟩ := h
      cases ending with
      | rollback outcome => simp [pure, Except.pure] at rest
      | commit outcome final =>
          simp only [pure, Except.pure, Except.ok.injEq, Ending.commit.injEq] at rest
          obtain ⟨_, rfl⟩ := rest
          simp only [PostgresSubscriptionRepository.update] at updated
          split at updated
          · simp only [bind_ok, pure, Except.pure, Except.ok.injEq, Ending.commit.injEq] at updated
            obtain ⟨second, audit, _, rfl⟩ := updated
            obtain ⟨rfl, _⟩ := insertAuditEvent_ok _ _ _ _ _ _ _ _ audit
            exact ⟨rfl, rfl, rfl⟩
          · simp [pure, Except.pure] at updated
  | deleteSubscription id =>
      simp only [runEdit, PostgresSubscriptionRepository.delete, Except.ok.injEq,
        Ending.commit.injEq] at h
      obtain ⟨_, rfl⟩ := h
      exact ⟨rfl, rfl, rfl⟩
  | upsertPreference consumerId preference =>
      simp only [runEdit, PostgresDeliveryPreferenceRepository.upsert, Except.ok.injEq,
        Ending.commit.injEq] at h
      obtain ⟨_, rfl⟩ := h
      exact ⟨rfl, rfl, rfl⟩

inductive Wrote (env : Env) (db after : Db) : (call : Call) → Except Failure call.Res → Prop where
  | quiet {call : Call} {answer : Except Failure call.Res} (same : db.SameDeliveries after)
      (silent : call.moved answer = []) : Wrote env db after call answer
  | planned {item : PlannedDelivery} (inserted : Inserted env.now item db after) :
      Wrote env db after (.createPlannedItem item) (.ok ())
  | claimed {limit : Nat} {snapshot : ClaimSnapshot} {rows : List DeliveryRow}
      {claimed : List Delivery}
      (locked : rows = lockClaimable env.tie env.locked limit snapshot db)
      (all : ClaimedAll snapshot.now rows claimed db after) :
      Wrote env db after (.lockAndStart limit snapshot) (.ok claimed)
  | applied {delivery : Delivery} {transition : DeliveryTransition}
      (advanced : Advanced env.now delivery transition.event none db after) :
      Wrote env db after (.applyTransition delivery transition) (.ok .applied)
  | attempted {delivery : Delivery} {transition : DeliveryAttemptTransition}
      (advanced : Advanced env.now delivery transition.event (some transition.attempt) db after) :
      Wrote env db after (.applyAttemptTransition delivery transition) (.ok .applied)

theorem runCall_wrote (env : Env) (call : Call) (db : Db)
    (distinct : (db.deliveries.map (·.id)).Nodup) (readable : ∀ row ∈ db.deliveries, Readable row)
    (snapshots : ∀ limit snapshot, call = .lockAndStart limit snapshot →
      (snapshot.rows.map (·.id)).Nodup) :
    Wrote env db (runCall env call db).2 call (runCall env call db).1 := by
  cases call with
  | claimUnpublished eventType limit =>
      refine .quiet (transaction_sameDeliveries _ _ _ fun value after h => ?_) rfl
      simp only [PostgresOutboxRepository.claimUnpublished, pure, Except.pure, Except.ok.injEq,
        Ending.commit.injEq] at h
      obtain ⟨_, rfl⟩ := h
      exact ⟨rfl, rfl, rfl⟩
  | markPublished id =>
      refine .quiet (transaction_sameDeliveries _ _ _ fun value after h => ?_) rfl
      simp only [PostgresOutboxRepository.markPublished, pure, Except.pure, Except.ok.injEq,
        Ending.commit.injEq] at h
      obtain ⟨_, rfl⟩ := h
      exact ⟨rfl, rfl, rfl⟩
  | recordIfNew channel providerEventId =>
      refine .quiet (transaction_sameDeliveries _ _ _ fun value after h => ?_) rfl
      simp only [PostgresWebhookReplayGuard.recordIfNew] at h
      split at h
      · simp at h
      · split at h <;>
        · simp only [Except.ok.injEq, Ending.commit.injEq] at h
          obtain ⟨_, rfl⟩ := h
          exact ⟨rfl, rfl, rfl⟩
  | edit edit =>
      exact .quiet (transaction_sameDeliveries _ _ _ fun value after h =>
        runEdit_sameDeliveries env edit db after value h) rfl
  | findAlert id => exact .quiet (.refl _) rfl
  | listSubscriptions => exact .quiet (.refl _) rfl
  | findPreference consumerId => exact .quiet (.refl _) rfl
  | beginClaim => exact .quiet (.refl _) rfl
  | findConsumer id => exact .quiet (.refl _) rfl
  | send deliveryId attempt channel message => exact .quiet (.refl _) rfl
  | findSentAttempt providerMessageId => exact .quiet (.refl _) rfl
  | findDelivery id => exact .quiet (.refl _) rfl
  | findDeliveriesByAlert id => exact .quiet (.refl _) rfl
  | respond callback status => exact .quiet (.refl _) rfl
  | createPlannedItem item =>
      rcases transaction_cases env.fault Failure.database
          (PostgresDeliveryRepository.createPlannedItem env.now item) db with
        ⟨_, _, ended⟩ | ⟨_, _, ended⟩ | ⟨value, after, result, ended⟩
      · exact .quiet (by rw [runCall, ended]; exact .refl db) rfl
      · exact .quiet (by rw [runCall, ended]; exact .refl db) rfl
      · rw [runCall, ended]
        rcases PostgresDeliveryRepository.createPlannedItem_effect env.now item db _ result with
          ⟨rolled, _⟩ | ⟨final, commit, inserted⟩
        · simp at rolled
        · obtain rfl : after = final := by simpa using commit
          exact .planned inserted
  | lockAndStart limit snapshot =>
      rcases transaction_cases env.fault Failure.database
          (PostgresDeliveryRepository.claimNext env.tie env.locked env.fresh limit snapshot) db with
        ⟨_, _, ended⟩ | ⟨_, result, ended⟩ | ⟨claimed, after, result, ended⟩
      · rw [runCall, ended]
        exact .quiet (.refl db) rfl
      · simp only [PostgresDeliveryRepository.claimNext, bind_ok, pure, Except.pure] at result
        obtain ⟨_, _, rolled⟩ := result
        simp at rolled
      · rw [runCall, ended]
        simp only [PostgresDeliveryRepository.claimNext, bind_ok, pure, Except.pure,
          Except.ok.injEq, Ending.commit.injEq] at result
        obtain ⟨⟨_, _⟩, started, rfl, rfl⟩ := result
        exact .claimed rfl (PostgresDeliveryRepository.claimRows_effect _ _ _ _ _ _ _ distinct
          readable (fun row member => (lockClaimable_mem _ _ _ _ _ row member).1)
          (lockClaimable_distinct _ _ _ _ _ (snapshots limit snapshot rfl)) started)
  | applyTransition delivery transition =>
      rcases transaction_cases env.fault Failure.database
          (PostgresDeliveryRepository.applyTransition env.now delivery transition) db with
        ⟨_, _, ended⟩ | ⟨value, result, ended⟩ | ⟨value, after, result, ended⟩
      · rw [runCall, ended]
        exact .quiet (.refl db) rfl
      · rw [runCall, ended]
        rcases PostgresDeliveryRepository.applyTransition_effect _ _ _ _ _ result with
          ⟨rolled, _⟩ | ⟨_, commit, _⟩
        · obtain rfl : value = .conflict := by simpa using rolled
          exact .quiet (.refl db) rfl
        · simp at commit
      · rw [runCall, ended]
        rcases PostgresDeliveryRepository.applyTransition_effect _ _ _ _ _ result with
          ⟨rolled, _⟩ | ⟨final, commit, advanced⟩
        · simp at rolled
        · obtain ⟨rfl, rfl⟩ : value = .applied ∧ after = final := by simpa using commit
          exact .applied advanced
  | applyAttemptTransition delivery transition =>
      rcases transaction_cases env.fault Failure.database
          (PostgresDeliveryRepository.applyAttemptTransition env.now delivery transition) db with
        ⟨_, _, ended⟩ | ⟨value, result, ended⟩ | ⟨value, after, result, ended⟩
      · rw [runCall, ended]
        exact .quiet (.refl db) rfl
      · rw [runCall, ended]
        rcases PostgresDeliveryRepository.applyAttemptTransition_effect _ _ _ _ _ result with
          ⟨rolled, _⟩ | ⟨_, commit, _⟩
        · obtain rfl : value = .conflict := by simpa using rolled
          exact .quiet (.refl db) rfl
        · simp at commit
      · rw [runCall, ended]
        rcases PostgresDeliveryRepository.applyAttemptTransition_effect _ _ _ _ _ result with
          ⟨rolled, _⟩ | ⟨final, commit, advanced⟩
        · simp at rolled
        · obtain ⟨rfl, rfl⟩ : value = .applied ∧ after = final := by simpa using commit
          exact .attempted advanced

end SafeCameroon
