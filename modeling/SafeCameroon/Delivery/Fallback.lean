import SafeCameroon.Aggregate.Gate
import SafeCameroon.Delivery.Pool

namespace SafeCameroon

open Table Process Ownership DeliveryLife

/-- Time does not run backwards, the preference a consumer has while an alert is planned is always the
same one for that alert, and the keys of the planned deliveries are among the given ones. -/
def fallbackRules (preferenceOf : AlertId → ConsumerId → Option DeliveryPreference)
    (keys : Set String) : Rules deliveryMachine where
  mayCall := fun pid call env world => world.clock ≤ env.now ∧ match call with
    | .findPreference consumerId => ∀ alertId, planningOf pid world.history = some alertId →
        PostgresDeliveryPreferenceRepository.findByConsumer consumerId world.db =
          preferenceOf alertId consumerId
    | .createPlannedItem item => item.delivery.idempotencyKey ∈ keys
    | _ => True
  mayHalt := fun _ _ _ => True

theorem fallbackRules_watched (preferenceOf : AlertId → ConsumerId → Option DeliveryPreference)
    (keys : Set String) (jobs : Nat → Job) : Watched (fallbackRules preferenceOf keys) jobs False where
  timely := fun _ _ _ _ legal => legal.1
  errors := fun impossible => impossible.elim
  drops := fun impossible => impossible.elim

/-- What the tables, the plans under way and the snapshots of claims have in common. -/
structure Gated (sha256 : String → Bytes) (keys : Set String)
    (preferenceOf : AlertId → ConsumerId → Option DeliveryPreference) (world : World) : Prop where
  tiered : Tiered sha256 keys preferenceOf world.db.deliveries
  gate : Gate world.db.deliveries
  read : ∀ pid alertId consumerId preference,
    Preferred world.history pid alertId consumerId preference →
      preferenceOf alertId consumerId = some preference
  persisted : ∀ item, Persisted world.history item → item.place.key ∈ keys ∧
    ∃ row ∈ world.db.deliveries, row.idempotencyKeyHash = item.idempotencyKeyHash
  snapshots : ∀ snapshot, world.Began snapshot → Seen sha256 keys preferenceOf world.db snapshot

section Step

variable {setup : WorkerSetup} {jobs : Nat → Job} {keys : Set String}
  {preferenceOf : AlertId → ConsumerId → Option DeliveryPreference} {world : World} {pid : Nat}
  {call : Call} {env : Env}

theorem read_execute (gated : Gated setup.sha256 keys preferenceOf world)
    (legal : (fallbackRules preferenceOf keys).mayCall pid call env world) (reader : Nat)
    (alertId : AlertId) (consumerId : ConsumerId) (preference : DeliveryPreference)
    (preferred : Preferred (world.execute pid call env).2.history reader alertId consumerId
      preference) : preferenceOf alertId consumerId = some preference := by
  obtain ⟨recent, time, before, older, split, planning⟩ := preferred
  rw [World.execute_history] at split
  cases recent with
  | nil =>
      rw [List.nil_append, List.cons.injEq, Entry.mk.injEq] at split
      obtain ⟨⟨rfl, rfl, answer, _, _⟩, rfl⟩ := split
      have stored := query_ok _ _ _ _ _ (eq_of_heq answer)
      rw [Except.ok.injEq] at stored
      rw [← legal.2 alertId planning, stored]
  | cons entry recent =>
      rw [List.cons_append, List.cons.injEq] at split
      exact gated.read reader alertId consumerId preference
        ⟨recent, time, before, older, split.2, planning⟩

theorem joins_of_planned (collisionFree : Set.InjOn setup.sha256 keys)
    (gated : Gated setup.sha256 keys preferenceOf world) (item : PlannedDelivery)
    (planned : Planned setup world.history pid item) (key : item.place.key ∈ keys) :
    Joins setup.sha256 keys preferenceOf world.db item := by
  obtain ⟨fresh, alert, matched, preferences, requestId, earlier, later, plan, persisted, preferred⟩ :=
    planned
  have agrees : ∀ consumerId preference, preferences consumerId = some preference →
      preferenceOf alert.id consumerId = some preference := by
    intro consumerId preference known
    exact gated.read pid alert.id consumerId preference (preferred consumerId preference known)
  obtain ⟨hash, offered, lowerFirst⟩ := planDeliveries_earlier setup.sha256 fresh alert matched
    preferences .standard .automated requestId earlier later item plan preferenceOf agrees
  constructor
  · exact offered
  · exact key
  · exact hash
  · intro lower lowerOffered below
    obtain ⟨before, inEarlier, place⟩ := lowerFirst lower lowerOffered below
    obtain ⟨beforeKey, row, inTable, stored⟩ := gated.persisted before (persisted before inEarlier)
    obtain ⟨first, second, split⟩ := List.append_of_mem inEarlier
    rw [split, List.append_assoc] at plan
    have beforeHash := (planDeliveries_earlier setup.sha256 fresh alert matched preferences .standard
      .automated requestId first (second ++ item :: later) before plan preferenceOf agrees).1
    have keyed := gated.tiered.keyed row inTable
    have digests : setup.sha256 row.place.key = setup.sha256 lower.key := by
      rw [← keyed.2, stored, beforeHash, place]
    have sameKey : row.place.key = lower.key := by
      apply collisionFree keyed.1 _ digests
      rw [← place]
      exact beforeKey
    refine ⟨row, inTable, ?_⟩
    exact Place.eq_of_key preferenceOf row.place lower (gated.tiered.offered row inTable) lowerOffered
      sameKey

theorem gate_execute (env : Env) (collisionFree : Set.InjOn setup.sha256 keys)
    (exclusive : Exclusive setup jobs world)
    (proper : Proper setup (jobs pid) pid world.db world.history call)
    (legal : (fallbackRules preferenceOf keys).mayCall pid call env world)
    (gated : Gated setup.sha256 keys preferenceOf world) :
    Tiered setup.sha256 keys preferenceOf (runCall env call world.db).2.deliveries ∧
      Gate (runCall env call world.db).2.deliveries := by
  have informed := Proper.informed setup (jobs pid) pid world call exclusive.agrees proper
  have wrote := informed.wrote exclusive.agrees.ledger env
  have distinct := exclusive.agrees.ledger.distinct
  generalize (runCall env call world.db).1 = answer at wrote
  generalize (runCall env call world.db).2 = after at wrote
  cases wrote with
  | quiet same silent =>
      rw [same.deliveries]
      exact ⟨gated.tiered, gated.gate⟩
  | @planned item inserted =>
      have joins := joins_of_planned collisionFree gated item proper legal.2
      have fresh : item.Fresh := informed
      exact ⟨tiered_insert gated.tiered inserted joins,
        gate_insert gated.tiered gated.gate inserted joins fresh⟩
  | @claimed limit snapshot rows claimed locked all =>
      have apart : (rows.map (·.id)).Nodup := by
        rw [locked]
        exact lockClaimable_distinct _ _ _ _ _ informed
      have batch := all.batch distinct exclusive.agrees.ledger.readable apart
      have continues := batch.continues distinct
      refine ⟨tiered_continues gated.tiered continues, gate_continues gated.gate continues ?_⟩
      intro row member later inAfter follows untried attempted lower other below
      have inBatch : row ∈ rows := by
        rcases (batch.tables later).mp inAfter with ⟨old, _⟩ | ⟨pair, inZip, rfl⟩
        · have identical := eq_of_key (·.id) _ distinct later row old member follows.id
          rw [identical] at attempted
          omega
        · have identical : pair.1 = row := by
            apply eq_of_key (·.id) _ distinct pair.1 row (batch.row_mem pair inZip) member
            exact follows.id
          rw [← identical]
          exact (List.of_mem_zip inZip).1
      rw [locked] at inBatch
      obtain ⟨_, claimable, candidate⟩ := lockClaimable_mem _ _ _ _ _ row inBatch
      exact opened_by_claim distinct gated.tiered snapshot (gated.snapshots snapshot proper) row member
        claimable candidate lower other below
  | @applied delivery transition advanced =>
      obtain ⟨fresh, before, actor, requestId, stale, result⟩ := proper
      have moves := recordDeliveryDelivered_moves fresh before delivery actor requestId transition
        result
      have other : transition.event.eventType ≠ .deliveryStarted := by
        intro started
        have sent : before.status = .sent :=
          (recordDeliveryDelivered_sent fresh before delivery actor requestId transition result).1
        rcases (step_started _ _ _ _ moves.step started).1 with queued | retrying
        · exact absurd (sent.symm.trans queued) (by simp)
        · exact absurd (sent.symm.trans retrying) (by simp)
      have continues := advanced.continues distinct stale moves
      refine ⟨tiered_continues gated.tiered continues, gate_continues gated.gate continues ?_⟩
      intro row member later inAfter follows untried attempted
      have count := advanced.attemptCount distinct stale moves other row later member inAfter follows
      omega
  | @attempted delivery transition advanced =>
      obtain ⟨before, stale, moves⟩ := informed
      have other : transition.event.eventType ≠ .deliveryStarted := by
        intro started
        have unrecorded := (step_started _ _ _ _ moves.step started).2
        simp at unrecorded
      have continues := advanced.continues distinct stale moves
      refine ⟨tiered_continues gated.tiered continues, gate_continues gated.gate continues ?_⟩
      intro row member later inAfter follows untried attempted
      have count := advanced.attemptCount distinct stale moves other row later member inAfter follows
      omega

theorem createPlannedItem_persists (env : Env) (item : PlannedDelivery) (db : Db)
    (h : (runCall env (.createPlannedItem item) db).1 = .ok ()) :
    ∃ row ∈ (runCall env (.createPlannedItem item) db).2.deliveries,
      row.idempotencyKeyHash = item.idempotencyKeyHash := by
  rcases transaction_ok _ _ _ _ _ h with ⟨result, same⟩ | ⟨after, result, same⟩
  · rcases PostgresDeliveryRepository.createPlannedItem_effect env.now item db _ result with
      ⟨_, taken⟩ | ⟨_, commit, _⟩
    · obtain ⟨row, member, hash⟩ := List.mem_map.mp taken
      refine ⟨row, ?_, hash⟩
      rw [runCall, same]
      exact member
    · simp at commit
  · rcases PostgresDeliveryRepository.createPlannedItem_effect env.now item db _ result with
      ⟨rolled, _⟩ | ⟨final, commit, inserted⟩
    · simp at rolled
    · obtain ⟨_, rfl⟩ := Ending.commit.inj commit
      refine ⟨plannedRow env.now item, ?_, rfl⟩
      rw [runCall, same]
      exact (inserted.rows _).mpr (Or.inr rfl)

theorem gated_execute (collisionFree : Set.InjOn setup.sha256 keys)
    (exclusive : Exclusive setup jobs world)
    (proper : Proper setup (jobs pid) pid world.db world.history call)
    (legal : (fallbackRules preferenceOf keys).mayCall pid call env world)
    (gated : Gated setup.sha256 keys preferenceOf world) :
    Gated setup.sha256 keys preferenceOf (world.execute pid call env).2 := by
  have informed := Proper.informed setup (jobs pid) pid world call exclusive.agrees proper
  have continues := (informed.wrote exclusive.agrees.ledger env).continues informed
    exclusive.agrees.ledger
  have tables := gate_execute env collisionFree exclusive proper legal gated
  constructor
  · exact tables.1
  · exact tables.2
  · exact read_execute gated legal
  · intro item ⟨maker, time, before, recorded⟩
    rw [World.execute_history] at recorded
    rcases List.mem_cons.mp recorded with latest | old
    · obtain ⟨rfl, rfl, answer, _, _⟩ := Entry.mk.inj latest
      exact ⟨legal.2, createPlannedItem_persists env item world.db (eq_of_heq answer).symm⟩
    · obtain ⟨key, row, member, hash⟩ := gated.persisted item ⟨maker, time, before, old⟩
      obtain ⟨later, inTable, follows⟩ := continues.kept row member
      exact ⟨key, later, inTable, follows.hash.trans hash⟩
  · intro snapshot began
    rcases (began_execute snapshot).mp began with taken | old
    · cases call with
      | beginClaim =>
          cases answer : (runCall env .beginClaim world.db).1 with
          | error failure => simp [answer, Call.snapshots] at taken
          | ok value =>
              have result := query_ok _ _ _ _ _ answer
              obtain rfl : snapshot = value := by simpa [answer, Call.snapshots] using taken
              obtain rfl : { now := env.now, rows := world.db.deliveries } = snapshot := by
                simpa using result
              exact ⟨gated.tiered, fun row member => ⟨row, member, .refl row⟩⟩
      | _ => simp [Call.snapshots] at taken
    · have seen := gated.snapshots snapshot old
      refine ⟨seen.tiered, fun row member => ?_⟩
      obtain ⟨current, inTable, follows⟩ := seen.followed row member
      obtain ⟨later, inLater, goesOn⟩ := continues.kept current inTable
      exact ⟨later, inLater, follows.trans goesOn⟩

end Step

theorem gated_initial (sha256 : String → Bytes) (keys : Set String)
    (preferenceOf : AlertId → ConsumerId → Option DeliveryPreference) (db : Db)
    (initial : db.Initial) : Gated sha256 keys preferenceOf (World.initial db) where
  tiered := by
    constructor <;> simp [World.initial, initial.deliveries]
  gate := by simp [Gate, World.initial, initial.deliveries]
  read := by simp [Preferred, World.initial]
  persisted := by simp [Persisted, World.initial]
  snapshots := by simp [World.Began, World.initial]

structure LowerFailed (deployment : Deployment) (jobs : Nat → Job) (rules : Rules deliveryMachine)
    (preferenceOf : AlertId → ConsumerId → Option DeliveryPreference) (config : Pool)
    (row : DeliveryRow) : Prop where
  persisted : ∃ preference endpoint, preferenceOf row.alertId row.consumerId = some preference ∧
    (row.tier, endpoint) ∈ preference.tiers ∧ endpoint.channel = row.channel ∧
    ∀ tier other, (tier, other) ∈ preference.tiers → tier < row.tier →
      ∃ lower ∈ config.state.db.deliveries, lower.alertId = row.alertId ∧
        lower.consumerId = row.consumerId ∧ lower.tier = tier ∧ lower.channel = other.channel ∧
        lower.endpointAddress = other.address
  failed : ∀ lower ∈ config.state.db.deliveries, lower.alertId = row.alertId →
    lower.consumerId = row.consumerId → lower.tier < row.tier → lower.status = .failedPermanently
  forever : ∀ lower ∈ config.state.db.deliveries, lower.alertId = row.alertId →
    lower.consumerId = row.consumerId → lower.tier < row.tier →
      ∀ later : Pool, Reach rules (deployment.pool jobs) config later →
        ∃ after ∈ later.state.db.deliveries, after.id = lower.id ∧ after.status = .failedPermanently

theorem gated_reach (deployment : Deployment) (jobs : Nat → Job) (init : Db) (initial : init.Initial)
    (preferenceOf : AlertId → ConsumerId → Option DeliveryPreference) (keys : Set String)
    (collisionFree : Set.InjOn deployment.setup.sha256 keys) (config : Pool)
    (reached : deployment.Reaches jobs (fallbackRules preferenceOf keys) init config) :
    Gated deployment.setup.sha256 keys preferenceOf config.state := by
  have watched := fallbackRules_watched preferenceOf keys jobs
  apply reach_invariant deployment jobs watched init initial
  · exact gated_initial deployment.setup.sha256 keys preferenceOf init initial
  · intro world pid call env exclusive proper legal gated
    exact gated_execute collisionFree exclusive proper legal gated
  · exact reached

theorem lowerFailed_of_attempted (deployment : Deployment) (jobs : Nat → Job) (init : Db)
    (initial : init.Initial) (preferenceOf : AlertId → ConsumerId → Option DeliveryPreference)
    (keys : Set String) (collisionFree : Set.InjOn deployment.setup.sha256 keys) (config : Pool)
    (reached : deployment.Reaches jobs (fallbackRules preferenceOf keys) init config)
    (row : DeliveryRow) (member : row ∈ config.state.db.deliveries)
    (attempted : 0 < row.attemptCount) :
    LowerFailed deployment jobs (fallbackRules preferenceOf keys) preferenceOf config row := by
  have gated := gated_reach deployment jobs init initial preferenceOf keys collisionFree config reached
  have failed : ∀ lower ∈ config.state.db.deliveries, lower.alertId = row.alertId →
      lower.consumerId = row.consumerId → lower.tier < row.tier →
        lower.status = .failedPermanently := by
    intro lower other alertId consumerId tier
    exact gated.gate row member attempted lower other ⟨alertId, consumerId, tier⟩
  constructor
  · obtain ⟨preference, endpoint, known, inTiers, channel, _⟩ := gated.tiered.offered row member
    refine ⟨preference, endpoint, known, inTiers, channel, fun tier other otherTier below => ?_⟩
    have offered : Place.Offered preferenceOf
        { alertId := row.alertId, consumerId := row.consumerId, channel := other.channel
          endpointAddress := other.address, tier } :=
      ⟨preference, other, known, otherTier, rfl, rfl⟩
    obtain ⟨lower, inTable, place⟩ := gated.tiered.closed row member _ offered ⟨rfl, rfl, below⟩
    have columns := Place.mk.inj place
    exact ⟨lower, inTable, columns.1, columns.2.1, columns.2.2.2.2, columns.2.2.1, columns.2.2.2.1⟩
  · exact failed
  · intro lower other alertId consumerId tier later rest
    obtain ⟨after, inLater, follows⟩ := reach_follows deployment jobs
      (fallbackRules_watched preferenceOf keys jobs) init initial config later reached rest lower other
    have status := failed lower other alertId consumerId tier
    exact ⟨after, inLater, follows.id, (follows.terminal (Or.inr status)).trans status⟩

/-- In every run a delivery of a fallback tier is attempted, and a message of it sent, only after every
lower tier of its fan-out was persisted and has failed for good. -/
theorem fallback_gated (deployment : Deployment) (jobs : Nat → Job) (init : Db)
    (initial : init.Initial) (preferenceOf : AlertId → ConsumerId → Option DeliveryPreference)
    (keys : Set String) (collisionFree : Set.InjOn deployment.setup.sha256 keys) (config : Pool)
    (reached : deployment.Reaches jobs (fallbackRules preferenceOf keys) init config) :
    (∀ row ∈ config.state.db.deliveries, 0 < row.attemptCount →
      LowerFailed deployment jobs (fallbackRules preferenceOf keys) preferenceOf config row) ∧
    ∀ attempt ∈ sends config.state.history, ∃ row ∈ config.state.db.deliveries,
      row.id = attempt.1 ∧
        LowerFailed deployment jobs (fallbackRules preferenceOf keys) preferenceOf config row := by
  have attempted := lowerFailed_of_attempted deployment jobs init initial preferenceOf keys
    collisionFree config reached
  constructor
  · exact attempted
  · intro attempt sent
    obtain ⟨own, know, assigned⟩ := assigned_pool deployment jobs
      (fallbackRules_watched preferenceOf keys jobs) init initial config reached
    have exclusive : Exclusive deployment.setup jobs config.state := assigned.inv
    obtain ⟨positive, row, member, same, count⟩ :=
      exclusive.stored attempt (exclusive.claimed attempt sent)
    exact ⟨row, member, same, attempted row member (positive.trans_le count)⟩

section Runs

open Scenario

def scenarioPreference (_ : AlertId) (consumer : ConsumerId) : Option DeliveryPreference :=
  if consumer = consumerId then some preference else none

def scenarioKeys : Set String := { key | key ∈ [whatsAppKey, smsKey] }

theorem scenario_collisionFree : Set.InjOn deployment.setup.sha256 scenarioKeys := by
  intro first member second other same
  have digests : ∀ left ∈ [whatsAppKey, smsKey], ∀ right ∈ [whatsAppKey, smsKey],
      sha256 left = sha256 right → left = right := by decide
  exact digests first member second other same

def steady (config : Pool) : Label Env → Bool
  | .call pid env => timely config (.call pid env) && match config.slots pid with
    | .active (.call (.findPreference consumer) _) =>
        decide (PostgresDeliveryPreferenceRepository.findByConsumer consumer config.state.db =
          scenarioPreference alertId consumer)
    | .active (.call (.createPlannedItem item) _) =>
        decide (item.delivery.idempotencyKey ∈ [whatsAppKey, smsKey])
    | _ => true
  | _ => true

theorem steady_sound (config : Pool) (label : Label Env) (h : steady config label = true) :
    (fallbackRules scenarioPreference scenarioKeys).legal config label := by
  cases label with
  | start pid => trivial
  | halt pid => exact fun _ _ _ => trivial
  | call pid env =>
      intro call next slot
      simp only [steady, slot, Bool.and_eq_true] at h
      refine ⟨of_decide_eq_true h.1, ?_⟩
      cases call with
      | findPreference consumer => exact fun _ _ => of_decide_eq_true h.2
      | createPlannedItem item =>
          have listed : item.delivery.idempotencyKey ∈ [whatsAppKey, smsKey] := of_decide_eq_true h.2
          exact listed
      | _ => trivial

/-- WhatsApp refuses the message for good, and the SMS of the next tier is sent. -/
theorem fallback_gated_sms : ∃ config : Pool, ∃ row ∈ config.state.db.deliveries, row.tier = 1 ∧
    row.status = .sent ∧ LowerFailed deployment jobs
      (fallbackRules scenarioPreference scenarioKeys) scenarioPreference config row := by
  obtain ⟨config, reached, holds, _⟩ := play_reaches (deployment.pool jobs)
    (initially (World.initial store) : Pool) steady steady_sound
    (runs 0 1 1 ++ runs 1 7 10 ++ runsWith refusing 2 6 20 ++ runs 3 6 30)
    (fun config => config.state.db.deliveries.any fun row =>
      decide (row.tier = 1) && decide (row.status = .sent) && decide (0 < row.attemptCount))
    (by decide +kernel)
  simp only [List.any_eq_true, Bool.and_eq_true, decide_eq_true_eq] at holds
  obtain ⟨row, member, ⟨tier, status⟩, attempted⟩ := holds
  have gated := fallback_gated deployment jobs store store_initial scenarioPreference scenarioKeys
    scenario_collisionFree config reached
  exact ⟨config, row, member, tier, status, gated.1 row member attempted⟩

end Runs

end SafeCameroon
