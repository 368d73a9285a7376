import SafeCameroon.Delivery.Jobs

namespace SafeCameroon

open Table

namespace Call

def handed : (call : Call) → Except Failure call.Res → List (DeliveryId × Nat)
  | .lockAndStart _ _, .ok claimed => claimed.map fun delivery => (delivery.id, delivery.attemptCount)
  | _, _ => []

def sent : Call → List (DeliveryId × Nat)
  | .send deliveryId attempt _ _ => [(deliveryId, attempt)]
  | _ => []

end Call

def handedOut (history : List Entry) : List (DeliveryId × Nat) :=
  history.flatMap fun entry => entry.call.handed entry.answer

def sends (history : List Entry) : List (DeliveryId × Nat) :=
  history.flatMap fun entry => entry.call.sent

def planningOf (pid : Nat) : List Entry → Option AlertId
  | [] => none
  | ⟨other, .findAlert id, _, _, _⟩ :: older =>
      if other = pid then some id else planningOf pid older
  | _ :: older => planningOf pid older

def Preferred (history : List Entry) (pid : Nat) (alertId : AlertId) (consumerId : ConsumerId)
    (preference : DeliveryPreference) : Prop :=
  ∃ recent time before older,
    history = recent ++ ⟨pid, .findPreference consumerId, .ok (some preference), time, before⟩ :: older ∧
      planningOf pid older = some alertId

def Persisted (history : List Entry) (item : PlannedDelivery) : Prop :=
  ∃ pid time before, ⟨pid, .createPlannedItem item, .ok (), time, before⟩ ∈ history

def Planned (setup : WorkerSetup) (history : List Entry) (pid : Nat) (item : PlannedDelivery) : Prop :=
  ∃ fresh alert matched preferences requestId earlier later,
    planDeliveries setup.sha256 fresh alert matched preferences RetryPolicy.standard .automated
        requestId = earlier ++ item :: later ∧
      (∀ before ∈ earlier, Persisted history before) ∧
      ∀ consumerId preference, preferences consumerId = some preference →
        Preferred history pid alert.id consumerId preference

def Job.isDispatch : Job → Prop
  | .dispatch _ _ => True
  | _ => False

def Proper (setup : WorkerSetup) (job : Job) (pid : Nat) (db : Db) (history : List Entry) :
    Call → Prop
  | .createPlannedItem item => Planned setup history pid item
  | .lockAndStart _ snapshot =>
      ∃ entry ∈ history, snapshot ∈ entry.call.snapshots entry.answer
  | .send deliveryId attempt _ _ =>
      (deliveryId, attempt) ∈ handedOut history ∧ (deliveryId, attempt) ∉ sends history
  | .applyTransition delivery transition => ∃ fresh before actor requestId, Stale db before ∧
      recordDeliveryDelivered fresh before actor requestId = .ok (delivery, transition)
  | .applyAttemptTransition delivery transition => job.isDispatch ∧
      ∃ fresh before actor requestId, (∃ row ∈ db.deliveries, Holds row before) ∧
        ((∃ messageId, recordDeliverySuccess fresh before messageId actor requestId =
            .ok (delivery, transition)) ∨
          ∃ retryable reason, recordDeliveryFailure fresh before retryable reason actor requestId =
            .ok (delivery, transition))
  | _ => True

/-- What the record of a finished call shows: claims never panic and take only rows that are ready and
due, and a worker's own write of an attempt meets no conflict. -/
def Orderly (job : Job) : Entry → Prop
  | ⟨_, .lockAndStart _ snapshot, .ok claimed, time, before⟩ => snapshot.now ≤ time ∧
      ∀ delivery ∈ claimed, ∃ row ∈ before.deliveries, StartOf row delivery ∧
        ∀ due ∈ row.nextAttemptAt, due ≤ snapshot.now
  | ⟨_, .lockAndStart _ _, .error failure, _, _⟩ => failure = .database
  | ⟨_, .applyAttemptTransition _ _, .ok outcome, _, _⟩ => job.isDispatch → outcome = .applied
  | _ => True

/-- What holds of the shared world at every moment of a run. -/
structure Exclusive (setup : WorkerSetup) (jobs : Nat → Job) (world : World) : Prop where
  agrees : Agrees world
  past : ∀ snapshot, world.Began snapshot → snapshot.now ≤ world.clock
  handed : (handedOut world.history).Nodup
  stored : ∀ pair ∈ handedOut world.history, 0 < pair.2 ∧
    ∃ row ∈ world.db.deliveries, row.id = pair.1 ∧ pair.2 ≤ row.attemptCount
  sends : (sends world.history).Nodup
  claimed : ∀ pair ∈ SafeCameroon.sends world.history, pair ∈ handedOut world.history
  orderly : ∀ entry ∈ world.history, Orderly (jobs entry.pid) entry
  latest : ∀ entry older, world.history = entry :: older →
    Proper setup (jobs entry.pid) entry.pid entry.before older entry.call

theorem Proper.informed (setup : WorkerSetup) (job : Job) (pid : Nat) (world : World) (call : Call)
    (agrees : Agrees world) (proper : Proper setup job pid world.db world.history call) :
    Informed world.db call := by
  cases call with
  | createPlannedItem item =>
      obtain ⟨fresh, alert, matched, preferences, requestId, earlier, later, plan, _, _⟩ := proper
      refine planDeliveries_fresh setup.sha256 fresh alert matched preferences RetryPolicy.standard
        .automated requestId item ?_
      rw [plan]
      exact List.mem_append_right _ List.mem_cons_self
  | lockAndStart limit snapshot => exact agrees.snapshots snapshot proper
  | applyTransition delivery transition =>
      obtain ⟨fresh, before, actor, requestId, stale, delivered⟩ := proper
      exact ⟨before, stale,
        recordDeliveryDelivered_moves fresh before delivery actor requestId transition delivered⟩
  | applyAttemptTransition delivery transition =>
      obtain ⟨_, fresh, before, actor, requestId, ⟨row, member, holds⟩,
        ⟨messageId, result⟩ | ⟨retryable, reason, result⟩⟩ := proper
      · exact ⟨before, holds.stale member,
          recordDeliverySuccess_moves fresh before delivery messageId actor requestId transition result⟩
      · exact ⟨before, holds.stale member,
          recordDeliveryFailure_moves fresh before delivery retryable reason actor requestId transition
            result⟩
  | _ => trivial

@[simp] theorem handedOut_cons (entry : Entry) (older : List Entry) :
    handedOut (entry :: older) = entry.call.handed entry.answer ++ handedOut older := by
  simp [handedOut]

@[simp] theorem sends_cons (entry : Entry) (older : List Entry) :
    sends (entry :: older) = entry.call.sent ++ sends older := by
  simp [sends]

theorem lockAndStart_cases (env : Env) (limit : Nat) (snapshot : ClaimSnapshot) (db : Db)
    (distinct : (db.deliveries.map (·.id)).Nodup) (readable : ∀ row ∈ db.deliveries, Readable row)
    (apart : (snapshot.rows.map (·.id)).Nodup) :
    runCall env (.lockAndStart limit snapshot) db = (.error .database, db) ∨
      ∃ claimed after, runCall env (.lockAndStart limit snapshot) db = (.ok claimed, after) ∧
        Batch snapshot.now (lockClaimable env.tie env.locked limit snapshot db) claimed db after := by
  rcases transaction_cases env.fault Failure.database
      (PostgresDeliveryRepository.claimNext env.tie env.locked env.fresh limit snapshot) db with
    ⟨failure, cause, ended⟩ | ⟨_, result, _⟩ | ⟨claimed, after, result, ended⟩
  · obtain rfl : failure = .database := by
      rcases cause with same | failed
      · exact same
      · exact PostgresDeliveryRepository.claimNext_no_panic _ _ _ _ _ _ distinct readable apart _
          failed
    exact Or.inl ended
  · simp only [PostgresDeliveryRepository.claimNext, bind_ok, pure, Except.pure] at result
    obtain ⟨_, _, rolled⟩ := result
    simp at rolled
  · exact Or.inr ⟨claimed, after, ended, PostgresDeliveryRepository.claimNext_batch _ _ _ _ _ _ _ _
      distinct readable apart result⟩

section Step

variable {setup : WorkerSetup} {jobs : Nat → Job} {world : World} {pid : Nat} {call : Call}
  {env : Env}

theorem handed_new (env : Env) (exclusive : Exclusive setup jobs world)
    (proper : Proper setup (jobs pid) pid world.db world.history call) :
    (call.handed (runCall env call world.db).1).Nodup ∧
      ∀ pair ∈ call.handed (runCall env call world.db).1, 0 < pair.2 ∧
        pair ∉ handedOut world.history ∧
        ∃ row ∈ (runCall env call world.db).2.deliveries,
          row.id = pair.1 ∧ pair.2 ≤ row.attemptCount := by
  cases call with
  | lockAndStart limit snapshot =>
      have agrees := exclusive.agrees
      rcases lockAndStart_cases env limit snapshot world.db agrees.ledger.distinct
          agrees.ledger.readable (agrees.snapshots snapshot proper) with
        failed | ⟨claimed, after, ended, batch⟩
      · rw [failed]
        simp [Call.handed]
      · rw [ended]
        have apart : (claimed.map (·.id)).Nodup := batch.ids ▸
          lockClaimable_distinct _ _ _ _ _ (agrees.snapshots snapshot proper)
        refine ⟨?_, ?_⟩
        · refine List.Nodup.of_map Prod.fst ?_
          simpa [Call.handed, Function.comp_def] using apart
        · intro pair member
          obtain ⟨delivery, inClaimed, rfl⟩ := List.mem_map.mp member
          obtain ⟨row, inZip⟩ := batch.row_of_claimed delivery inClaimed
          have start := batch.start _ inZip
          have next : delivery.attemptCount = row.attemptCount + 1 := start.attemptCount
          refine ⟨next ▸ Nat.succ_pos _, fun old => ?_, ?_⟩
          · obtain ⟨_, stored, inTable, same, count⟩ := exclusive.stored _ old
            obtain rfl := eq_of_key (·.id) _ agrees.ledger.distinct stored row inTable
              (batch.row_mem _ inZip) (same.trans start.same.id.symm)
            simp only at count
            omega
          · obtain ⟨current, inTable, holds⟩ := batch.holds delivery inClaimed
            refine ⟨current, inTable, holds.same.id, ?_⟩
            exact Nat.le_of_eq (congrArg DeliveryLife.State.attemptCount holds.life).symm
  | _ => simp [Call.handed]

theorem stored_later {db after : Db} {planned : DeliveryRow → Prop}
    (continues : Continues planned db after) (pair : DeliveryId × Nat)
    (stored : ∃ row ∈ db.deliveries, row.id = pair.1 ∧ pair.2 ≤ row.attemptCount) :
    ∃ row ∈ after.deliveries, row.id = pair.1 ∧ pair.2 ≤ row.attemptCount := by
  obtain ⟨row, member, same, count⟩ := stored
  obtain ⟨later, inTable, follows⟩ := continues.kept row member
  exact ⟨later, inTable, follows.id.trans same, count.trans follows.attemptCount⟩

theorem orderly_execute (env : Env) (exclusive : Exclusive setup jobs world)
    (proper : Proper setup (jobs pid) pid world.db world.history call)
    (timely : world.clock ≤ env.now) :
    Orderly (jobs pid) ⟨pid, call, (runCall env call world.db).1, env.now, world.db⟩ := by
  have agrees := exclusive.agrees
  cases call with
  | lockAndStart limit snapshot =>
      rcases lockAndStart_cases env limit snapshot world.db agrees.ledger.distinct
          agrees.ledger.readable (agrees.snapshots snapshot proper) with
        failed | ⟨claimed, after, ended, batch⟩
      · rw [failed]
        rfl
      · rw [ended]
        refine ⟨(exclusive.past snapshot proper).trans timely, fun delivery inClaimed => ?_⟩
        obtain ⟨row, inZip⟩ := batch.row_of_claimed delivery inClaimed
        have locked := (List.of_mem_zip inZip).1
        exact ⟨row, batch.row_mem _ inZip, batch.start _ inZip,
          (lockClaimable_mem _ _ _ _ _ row locked).2.1.due⟩
  | applyAttemptTransition delivery transition =>
      obtain ⟨_, fresh, before, actor, requestId, ⟨row, member, holds⟩, result⟩ := proper
      have moves : Delivery.Moves before delivery transition.event (some transition.attempt) := by
        rcases result with ⟨messageId, result⟩ | ⟨retryable, reason, result⟩
        · exact recordDeliverySuccess_moves fresh before delivery messageId actor requestId transition
            result
        · exact recordDeliveryFailure_moves fresh before delivery retryable reason actor requestId
            transition result
      have advanced := advanceDelivery_true env.now delivery world.db agrees.ledger.distinct row member
        (holds.same.id.trans moves.id.symm) (by rw [moves.version, holds.version])
      rcases transaction_cases env.fault Failure.database
          (PostgresDeliveryRepository.applyAttemptTransition env.now delivery transition) world.db with
        ⟨_, _, ended⟩ | ⟨_, result, ended⟩ | ⟨_, _, result, ended⟩
      · rw [runCall, ended]
        trivial
      · rcases PostgresDeliveryRepository.applyAttemptTransition_effect _ _ _ _ _ result with
          ⟨_, failed⟩ | ⟨_, commit, _⟩
        · simp [advanced] at failed
        · simp at commit
      · rcases PostgresDeliveryRepository.applyAttemptTransition_effect _ _ _ _ _ result with
          ⟨rolled, _⟩ | ⟨_, commit, _⟩
        · simp at rolled
        · obtain ⟨rfl, _⟩ : _ = DeliveryTransitionOutcome.applied ∧ _ := by simpa using commit
          rw [runCall, ended]
          exact fun _ => rfl
  | _ => trivial

theorem exclusive_execute (exclusive : Exclusive setup jobs world)
    (proper : Proper setup (jobs pid) pid world.db world.history call)
    (timely : world.clock ≤ env.now) : Exclusive setup jobs (world.execute pid call env).2 := by
  have informed := Proper.informed setup (jobs pid) pid world call exclusive.agrees proper
  have continues := (informed.wrote exclusive.agrees.ledger env).continues informed
    exclusive.agrees.ledger
  obtain ⟨distinct, new⟩ := handed_new env exclusive proper
  refine ⟨agrees_execute world pid call env exclusive.agrees informed, ?_, ?_, ?_, ?_, ?_, ?_, ?_⟩
  · intro snapshot began
    rw [World.execute_clock]
    rcases (began_execute snapshot).mp began with taken | old
    · cases call with
      | beginClaim =>
          cases answer : (runCall env .beginClaim world.db).1 with
          | error failure => simp [answer, Call.snapshots] at taken
          | ok value =>
              have result := query_ok _ _ _ _ _ answer
              obtain rfl : snapshot = value := by simpa [answer, Call.snapshots] using taken
              obtain rfl : { now := env.now, rows := world.db.deliveries } = snapshot := by
                simpa using result
              exact Nat.le_refl _
      | _ => simp [Call.snapshots] at taken
    · exact (exclusive.past snapshot old).trans timely
  · rw [World.execute_history, handedOut_cons, List.nodup_append]
    exact ⟨distinct, exclusive.handed, fun pair member other old same =>
      (new pair member).2.1 (same ▸ old)⟩
  · rw [World.execute_history, handedOut_cons, World.execute_db]
    intro pair member
    rcases List.mem_append.mp member with handed | old
    · exact ⟨(new pair handed).1, (new pair handed).2.2⟩
    · exact ⟨(exclusive.stored pair old).1, stored_later continues pair (exclusive.stored pair old).2⟩
  · rw [World.execute_history, sends_cons]
    cases call with
    | send deliveryId attempt channel message =>
        exact List.nodup_cons.mpr ⟨proper.2, exclusive.sends⟩
    | _ => exact exclusive.sends
  · rw [World.execute_history, sends_cons, handedOut_cons]
    intro pair member
    refine List.mem_append_right _ ?_
    cases call with
    | send deliveryId attempt channel message =>
        rcases List.mem_cons.mp member with rfl | old
        · exact proper.1
        · exact exclusive.claimed pair old
    | _ => exact exclusive.claimed pair member
  · rw [World.execute_history]
    intro entry member
    rcases List.mem_cons.mp member with rfl | old
    · exact orderly_execute env exclusive proper timely
    · exact exclusive.orderly entry old
  · rw [World.execute_history]
    rintro entry older same
    obtain ⟨rfl, rfl⟩ := List.cons.inj same
    exact proper

end Step

theorem exclusive_initial (setup : WorkerSetup) (jobs : Nat → Job) (db : Db) (initial : db.Initial) :
    Exclusive setup jobs (World.initial db) where
  agrees := agrees_initial db initial
  past := by simp [World.Began, World.initial]
  handed := by simp [handedOut, World.initial]
  stored := by simp [handedOut, World.initial]
  sends := by simp [sends, World.initial]
  claimed := by simp [sends, World.initial]
  orderly := by simp [World.initial]
  latest := by simp [World.initial]

end SafeCameroon
