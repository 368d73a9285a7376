import SafeCameroon.Delivery.Jobs

namespace SafeCameroon

open Table Optimistic DeliveryLife

theorem Writes.trans {sha256 : String → Bytes} (start middle final : World)
    (first : Writes sha256 start middle) (rest : Writes sha256 middle final) :
    Writes sha256 start final := by
  induction rest with
  | start => exact first
  | step pid call env _ later admissible ih => exact .step pid call env ih later admissible

theorem writes_agrees (sha256 : String → Bytes) (init : Db) (initial : init.Initial) (world : World)
    (reached : Writes sha256 (World.initial init) world) : Agrees world := by
  induction reached with
  | start => exact agrees_initial init initial
  | step pid call env _ _ admissible ih =>
      have informed := ih.informed call admissible
      exact agrees_execute _ pid call env ih informed

/-- What the tables say of one delivery and how it moved. -/
structure Agreement (world : World) (row : DeliveryRow) : Prop where
  version : row.aggregateVersion = 1 + world.transitions row.id
  versions : (eventsOf row.id world.db).map (·.aggregateVersion) =
    List.range' 1 row.aggregateVersion
  replayed : replay ((eventsOf row.id world.db).map (·.eventType)) = some row.status
  attempts : ∃ finished, (attemptsOf row.id world.db).map (·.attemptNumber) =
      List.range' 1 finished ∧
    row.attemptCount = if row.status = .sending then finished + 1 else finished
  bounded : row.attemptCount ≤ row.maxAttempts
  retrying : row.status = .retrying → row.attemptCount < row.maxAttempts

theorem agreement_of_ledger (world : World) (ledger : Ledger world.db world.transitions)
    (row : DeliveryRow) (member : row ∈ world.db.deliveries) : Agreement world row := by
  obtain ⟨log, told, consistent⟩ := ledger.consistent row member
  have length : row.aggregateVersion = log.length + 1 := told.sound.version_eq
  have versions : (eventsOf row.id world.db).map (·.aggregateVersion) =
      List.range' 1 row.aggregateVersion := by
    have columns := congrArg (List.map Prod.fst) told.events
    rw [List.map_map, eventColumns_versions] at columns
    rw [length, ← columns]
    rfl
  have types : (eventsOf row.id world.db).map (·.eventType) =
      .deliveryRequested :: log.map (·.eventType) := by
    have columns := congrArg (List.map Prod.snd) told.events
    rw [List.map_map, eventColumns_types] at columns
    rw [← columns]
    rfl
  have numbered : (attemptsOf row.id world.db).map (·.attemptNumber) =
      List.range' 1 row.life.finished := by
    rw [told.attempts]
    exact consistent.numbered
  have finished : row.attemptCount =
      if row.status = .sending then row.life.finished + 1 else row.life.finished := by
    by_cases inFlight : row.status = .sending
    · have started : 0 < row.attemptCount := consistent.started inFlight
      have count : row.life.finished = row.attemptCount - 1 := if_pos inFlight
      rw [if_pos inFlight]
      omega
    · have count : row.life.finished = row.attemptCount := if_neg inFlight
      rw [if_neg inFlight, count]
  constructor
  · rw [length, told.counted]
    omega
  · exact versions
  · rw [types]
    exact consistent.replayed
  · exact ⟨row.life.finished, numbered, finished⟩
  · exact consistent.bounded
  · exact consistent.remaining

theorem writes_follows (sha256 : String → Bytes) (init : Db) (initial : init.Initial)
    (world later : World) (reached : Writes sha256 (World.initial init) world)
    (rest : Writes sha256 world later) (row : DeliveryRow) (member : row ∈ world.db.deliveries) :
    ∃ after ∈ later.db.deliveries, Follows row after := by
  induction rest with
  | start => exact ⟨row, member, .refl row⟩
  | step pid call env before _ admissible ih =>
      obtain ⟨middle, inTable, follows⟩ := ih
      have agrees := writes_agrees sha256 init initial _ (reached.trans _ _ _ before)
      have informed := agrees.informed call admissible
      have continues := (informed.wrote agrees.ledger env).continues informed agrees.ledger
      obtain ⟨after, inLater, goesOn⟩ := continues.kept middle inTable
      exact ⟨after, inLater, follows.trans goesOn⟩

theorem runCall_error (env : Env) (call : Call) (db : Db) (failure : Failure)
    (h : (runCall env call db).1 = .error failure) : (runCall env call db).2 = db := by
  cases call with
  | claimUnpublished eventType limit => exact transaction_error _ _ _ _ _ h
  | markPublished id => exact transaction_error _ _ _ _ _ h
  | createPlannedItem item => exact transaction_error _ _ _ _ _ h
  | lockAndStart limit snapshot => exact transaction_error _ _ _ _ _ h
  | applyTransition delivery transition => exact transaction_error _ _ _ _ _ h
  | applyAttemptTransition delivery transition => exact transaction_error _ _ _ _ _ h
  | recordIfNew channel providerEventId => exact transaction_error _ _ _ _ _ h
  | edit edit => exact transaction_error _ _ _ _ _ h
  | findAlert id => rfl
  | listSubscriptions => rfl
  | findPreference consumerId => rfl
  | beginClaim => rfl
  | findConsumer id => rfl
  | send deliveryId attempt channel message => rfl
  | findSentAttempt providerMessageId => rfl
  | findDelivery id => rfl
  | findDeliveriesByAlert id => rfl
  | respond callback status => rfl

theorem applyTransition_conflict (env : Env) (delivery : Delivery) (transition : DeliveryTransition)
    (db : Db) (h : (runCall env (.applyTransition delivery transition) db).1 = .ok .conflict) :
    (runCall env (.applyTransition delivery transition) db).2 = db := by
  rcases transaction_ok _ _ _ _ _ h with ⟨_, same⟩ | ⟨after, result, _⟩
  · exact same
  · have effect := PostgresDeliveryRepository.applyTransition_effect _ _ _ _ _ result
    simp at effect

theorem applyAttemptTransition_conflict (env : Env) (delivery : Delivery)
    (transition : DeliveryAttemptTransition) (db : Db)
    (h : (runCall env (.applyAttemptTransition delivery transition) db).1 = .ok .conflict) :
    (runCall env (.applyAttemptTransition delivery transition) db).2 = db := by
  rcases transaction_ok _ _ _ _ _ h with ⟨_, same⟩ | ⟨after, result, _⟩
  · exact same
  · have effect := PostgresDeliveryRepository.applyAttemptTransition_effect _ _ _ _ _ result
    simp at effect

structure TablesAgree (sha256 : String → Bytes) (world : World) : Prop where
  distinct : (world.db.deliveries.map (·.id)).Nodup
  rows : ∀ row ∈ world.db.deliveries, Agreement world row
  final : ∀ row ∈ world.db.deliveries, row.status = .delivered ∨ row.status = .failedPermanently →
    ∀ later, Writes sha256 world later → ∀ after ∈ later.db.deliveries, after.id = row.id →
      after.status = row.status
  kept : ∀ row ∈ world.db.deliveries, ∀ later, Writes sha256 world later →
    ∃ after ∈ later.db.deliveries, after.id = row.id
  failed : ∀ env call failure, (runCall env call world.db).1 = .error failure →
    (runCall env call world.db).2 = world.db
  refused : ∀ env delivery transition,
    (runCall env (.applyTransition delivery transition) world.db).1 = .ok .conflict →
      (runCall env (.applyTransition delivery transition) world.db).2 = world.db
  refusedAttempt : ∀ env delivery transition,
    (runCall env (.applyAttemptTransition delivery transition) world.db).1 = .ok .conflict →
      (runCall env (.applyAttemptTransition delivery transition) world.db).2 = world.db

/-- The aggregate and its event log agree however the writers interleave. -/
theorem tables_agree (sha256 : String → Bytes) (init : Db) (initial : init.Initial) (world : World)
    (reached : Writes sha256 (World.initial init) world) : TablesAgree sha256 world := by
  have ledger := (writes_agrees sha256 init initial world reached).ledger
  constructor
  · exact ledger.distinct
  · exact agreement_of_ledger world ledger
  · intro row member terminal later rest after inLater same
    have afterwards := writes_agrees sha256 init initial later (reached.trans _ _ _ rest)
    obtain ⟨kept, inTable, follows⟩ :=
      writes_follows sha256 init initial world later reached rest row member
    have identical := eq_of_key (·.id) _ afterwards.ledger.distinct after kept inLater inTable
      (same.trans follows.id.symm)
    rw [identical]
    exact follows.terminal terminal
  · intro row member later rest
    obtain ⟨kept, inTable, follows⟩ :=
      writes_follows sha256 init initial world later reached rest row member
    exact ⟨kept, inTable, follows.id⟩
  · intro env call failure h
    exact runCall_error env call world.db failure h
  · intro env delivery transition h
    exact applyTransition_conflict env delivery transition world.db h
  · intro env delivery transition h
    exact applyAttemptTransition_conflict env delivery transition world.db h

namespace Scenario

def consumerId : ConsumerId := ⟨3⟩

def alertId : AlertId := ⟨2⟩

def whatsAppKey : String :=
  "00000000-0000-0000-0000-000000000003:00000000-0000-0000-0000-000000000002:WHATSAPP:+237600000001"

def smsKey : String :=
  "00000000-0000-0000-0000-000000000003:00000000-0000-0000-0000-000000000002:SMS:+237600000001"

def sha256 (key : String) : Bytes :=
  if key = whatsAppKey then
    [173, 85, 152, 233, 91, 191, 99, 188, 156, 203, 160, 213, 10, 127, 251, 13,
     178, 45, 47, 102, 155, 215, 84, 59, 4, 88, 119, 77, 124, 45, 228, 20]
  else if key = smsKey then
    [99, 218, 35, 138, 232, 29, 253, 149, 74, 175, 161, 206, 196, 19, 44, 163,
     145, 149, 51, 181, 238, 215, 134, 199, 188, 127, 163, 36, 128, 210, 138, 166]
  else []

def setup : WorkerSetup := { sha256, unicode := .ascii, registered := fun _ => true }

def whatsApp : ChannelEndpoint :=
  { channel := .whatsApp, address := "+237600000001", trimmed := by decide, nonblank := by decide }

def sms : ChannelEndpoint :=
  { channel := .sms, address := "+237600000001", trimmed := by decide, nonblank := by decide }

/-- First by WhatsApp, and by SMS if that fails for good. -/
def preference : DeliveryPreference :=
  { strategy := .primaryFallback, channels := [whatsApp, sms]
    nonempty := by decide, distinct := by decide }

def alert : Alert :=
  { id := alertId, caseId := ⟨1⟩, policyId := "missing-child-community", policyVersion := 1
    incidentType := .missingChild, severity := .high, visibility := .community
    trigger := .caseVerified
    targetGeography := { text := "Douala", trimmed := TargetGeography.douala_trimmed
                         nonblank := TargetGeography.douala_nonblank }
    status := .active, fields := [], version := 1, issuedByOrganizationId := none }

def creation : AlertCreation :=
  { alert, event := { id := 10, alertId, eventType := .alertCreated, aggregateVersion := 1 }
    actor := .reviewer 5, auditEventId := 11, outboxEventId := 12, requestId := 13
    idempotencyKeyHash := none }

def subscription : Subscription :=
  { id := ⟨4⟩, consumerId, version := 1, rules := [.severity .greaterThanOrEqual .high]
    nonempty := by decide }

/-- One verified case, and one consumer who subscribes to what is severe. -/
def store : Db :=
  { Db.empty with
    cases := [{ id := ⟨1⟩, incidentType := .missingChild, status := .verified, aggregateVersion := 3 }]
    consumers := [{ id := consumerId, locale := none }]
    subscriptions := [{ subscription, createdAt := 0 }]
    deliveryPreferences := [(consumerId, preference)] }

theorem store_initial : store.Initial := ⟨rfl, rfl, rfl, rfl, rfl, rfl, rfl⟩

/-- A call at the given time whose provider, if it reaches one, gives the message an id. -/
def env (now : Timestamp) : Env :=
  { now, fault := false, tie := fun _ => 0, fieldTie := fun _ => 0, locked := []
    fresh := Supply.of (1000 + now), reply := .ok { providerMessageId := some "wa-1" } }

def plan : List PlannedDelivery :=
  planDeliveries sha256 (Supply.of 1) alert
    [{ consumerId, matchingSubscriptions := [{ subscriptionId := ⟨4⟩, subscriptionVersion := 1 }] }]
    (fun _ => some preference) RetryPolicy.standard .automated (Supply.of 1 4)

def alerted : World := ((World.initial store).execute 0 (.edit (.createAlert creation)) (env 1)).2

def planned : World := (alerted.execute 1 (.createPlannedItem (plan.head (by decide))) (env 2)).2

def seen : World := (planned.execute 2 .beginClaim (env 3)).2

def claimed : World :=
  (seen.execute 2 (.lockAndStart 10 { now := 3, rows := planned.db.deliveries }) (env 4)).2

end Scenario

open Scenario in
/-- One alert planned and its first delivery claimed. -/
theorem tables_agree_claimed : (∃ row ∈ claimed.db.deliveries, row.status = .sending) ∧
    TablesAgree sha256 claimed := by
  have initially : Writes sha256 (World.initial store) (World.initial store) := .start
  have created : Writes sha256 (World.initial store) alerted :=
    .step 0 (.edit (.createAlert creation)) (env 1) initially (Nat.zero_le _) trivial
  have persisted : Writes sha256 (World.initial store) planned := by
    apply Writes.step 1 (.createPlannedItem (plan.head (by decide))) (env 2) created
    · exact Nat.le_succ 1
    · exact ⟨Supply.of 1, alert, _, _, _, _, _, List.head_mem _⟩
  have began : Writes sha256 (World.initial store) seen :=
    .step 2 .beginClaim (env 3) persisted (Nat.le_succ 2) trivial
  have started : Writes sha256 (World.initial store) claimed := by
    apply Writes.step 2 (.lockAndStart 10 { now := 3, rows := planned.db.deliveries }) (env 4) began
    · exact Nat.le_succ 3
    · exact ⟨_, List.mem_cons_self, List.mem_singleton_self _⟩
  refine ⟨?_, tables_agree sha256 store store_initial claimed started⟩
  decide +kernel

end SafeCameroon
