import SafeCameroon.Delivery.Announcements
import SafeCameroon.Postgres.AlertReload

namespace SafeCameroon

open Table Process

/-- The process made the call and got the answer, which is what the tables held then. -/
def World.Learnt (world : World) (pid : Nat) (call : Call) (value : call.Res) : Prop :=
  ∃ time before env, (⟨pid, call, .ok value, time, before⟩ : Entry) ∈ world.history ∧
    (runCall env call before).1 = .ok value

def takenIds (history : List Entry) : List Uuid :=
  history.flatMap fun entry => (entry.call.taken entry.answer).map (·.id)

/-- What holds of the outbox, the deliveries and the record of the calls in every run. -/
structure Lineage (deployment : Deployment) (jobs : Nat → Job) (world : World) : Prop where
  answered : ∀ entry ∈ world.history, ∃ env, (runCall env entry.call entry.before).1 = entry.answer
  founded : ∀ entry ∈ world.history,
    deployment.grounds jobs entry.pid (world.trace entry.pid) entry.call
  legible : ∀ row ∈ world.db.alerts, row.Legible
  distinct : (world.db.outboxEvents.map (·.id)).Nodup
  announced : ∀ row ∈ world.db.outboxEvents,
    row.eventType = SubscriptionMatching.alertCreatedEventType → AlertStored world.db row.aggregateId
  once : (takenIds world.history).Nodup
  taken : ∀ entry ∈ world.history, ∀ event ∈ entry.call.taken entry.answer,
    ∃ row ∈ world.db.outboxEvents, row.id = event.id ∧ row.aggregateId = event.aggregateId ∧
      row.eventType = SubscriptionMatching.alertCreatedEventType ∧ row.claimedAt ≠ none
  published : ∀ row ∈ world.db.outboxEvents, row.publishedAt ≠ none →
    ∃ pid time before, (⟨pid, .markPublished row.id, .ok (), time, before⟩ : Entry) ∈ world.history
  keys : (world.db.deliveries.map (·.idempotencyKeyHash)).Nodup
  persisted : ∀ item, Persisted world.history item →
    item.idempotencyKeyHash ∈ world.db.deliveries.map (·.idempotencyKeyHash)
  planned : ∀ row ∈ world.db.deliveries, ∃ pid item time before,
    (⟨pid, .createPlannedItem item, .ok (), time, before⟩ : Entry) ∈ world.history ∧
      Follows (plannedRow time item) row
  alerts : ∀ row ∈ world.db.deliveries, AlertStored world.db row.alertId.uuid
  found : ∀ pid id answer time before,
    (⟨pid, .findAlert id, answer, time, before⟩ : Entry) ∈ world.history →
      answer = .error .database ∨ ∃ alert, answer = .ok (some alert) ∧ alert.id = id

section Step

variable {deployment : Deployment} {jobs : Nat → Job} {world : World} {pid : Nat} {call : Call}
  {env : Env}

theorem trace_grows (other : Nat) :
    world.trace other ⊆ (world.execute pid call env).2.trace other := by
  by_cases same : other = pid
  · subst same
    rw [show (world.execute other call env).2.trace other = _ from
      recordedCalls.own other call env world]
    exact List.subset_cons_self _ _
  · rw [show (world.execute pid call env).2.trace other = _ from
      recordedCalls.other pid other call env world same]
    exact List.Subset.refl _

theorem takenIds_execute : takenIds (world.execute pid call env).2.history =
    (call.taken (runCall env call world.db).1).map (·.id) ++ takenIds world.history := by
  simp [takenIds]

theorem Lineage.learnt (lineage : Lineage deployment jobs world) {value : call.Res}
    (heard : Heard (world.trace pid) call value) : world.Learnt pid call value := by
  obtain ⟨time, before, member⟩ := World.mem_trace pid world call _ heard
  obtain ⟨env, answer⟩ := lineage.answered _ member
  exact ⟨time, before, env, member, answer⟩

theorem Lineage.took (lineage : Lineage deployment jobs world) {event : ClaimedOutboxEvent}
    (took : Took (world.trace pid) event) : ∃ row ∈ world.db.outboxEvents, row.id = event.id ∧
      row.aggregateId = event.aggregateId ∧
      row.eventType = SubscriptionMatching.alertCreatedEventType := by
  obtain ⟨limit, events, heard, member⟩ := took
  obtain ⟨time, before, recorded⟩ := World.mem_trace pid world _ _ heard
  obtain ⟨row, inTable, id, aggregate, type, _⟩ := lineage.taken _ recorded event member
  exact ⟨row, inTable, id, aggregate, type⟩

theorem inHand_stale (agrees : Agrees world) {delivery : Delivery}
    (inHand : InHand (world.trace pid) delivery) : Stale world.db delivery := by
  obtain ⟨limit, snapshot, claimed, heard, member⟩ := inHand
  obtain ⟨time, before, recorded⟩ := World.mem_trace pid world _ _ heard
  exact agrees.obtained delivery ⟨_, recorded, member⟩

theorem Lineage.reads (lineage : Lineage deployment jobs world) (agrees : Agrees world)
    {id : AlertId} (grounded : deployment.grounds jobs pid (world.trace pid) (.findAlert id)) :
    AlertStored world.db id.uuid := by
  rcases grounded with ⟨event, took, rfl⟩ | ⟨delivery, inHand, rfl⟩
  · obtain ⟨row, member, _, aggregate, type⟩ := lineage.took took
    exact aggregate ▸ lineage.announced row member type
  · obtain ⟨row, member, same, _⟩ := inHand_stale agrees inHand
    exact same.alertId ▸ lineage.alerts row member

theorem findAlert_legible (env : Env) (id : AlertId) (db : Db)
    (legible : ∀ row ∈ db.alerts, row.Legible) (stored : AlertStored db id.uuid) :
    (runCall env (.findAlert id) db).1 = .error .database ∨
      ∃ alert, (runCall env (.findAlert id) db).1 = .ok (some alert) ∧ alert.id = id := by
  by_cases faulty : env.fault = true
  · exact Or.inl (by simp [runCall, query, faulty])
  · have quiet : env.fault = false := by simpa using faulty
    have run : (runCall env (.findAlert id) db).1 =
        PostgresAlertRepository.findById env.fieldTie id db := by simp [runCall, query, quiet]
    rw [run]
    apply Or.inr
    obtain ⟨row, member, same⟩ := stored
    cases found : lookup (·.id) id db.alerts with
    | none => exact absurd same ((lookup_none _ _ _).mp found row member)
    | some kept =>
        obtain ⟨inTable, equal⟩ := lookup_some _ _ _ _ found
        obtain ⟨geography, read⟩ := legible kept inTable
        simp [PostgresAlertRepository.findById, found, alertFieldsFromRows_ok, alertFromRow, read,
          Except.toOption, bind, Except.bind, pure, Except.pure, equal]

/-- The latest call is grounded in what its process knew, and so are the earlier ones. -/
theorem Lineage.founded_execute (lineage : Lineage deployment jobs world)
    (grounded : deployment.grounds jobs pid (world.trace pid) call) :
    ∀ entry ∈ (world.execute pid call env).2.history, deployment.grounds jobs entry.pid
      ((world.execute pid call env).2.trace entry.pid) entry.call := by
  intro entry member
  rw [World.execute_history] at member
  rcases List.mem_cons.mp member with rfl | old
  · exact grounded.grows (trace_grows pid)
  · exact (lineage.founded entry old).grows (trace_grows entry.pid)

theorem createPlannedItem_key (env : Env) (item : PlannedDelivery) (db : Db)
    (answer : (runCall env (.createPlannedItem item) db).1 = .ok ()) :
    item.idempotencyKeyHash ∈
      (runCall env (.createPlannedItem item) db).2.deliveries.map (·.idempotencyKeyHash) := by
  rcases transaction_cases env.fault Failure.database
      (PostgresDeliveryRepository.createPlannedItem env.now item) db with
    ⟨_, _, ended⟩ | ⟨_, result, ended⟩ | ⟨_, after, result, ended⟩
  · simp [runCall, ended] at answer
  · rw [runCall, ended]
    rcases PostgresDeliveryRepository.createPlannedItem_effect _ _ _ _ result with
      ⟨_, taken⟩ | ⟨_, commit, _⟩
    · exact taken
    · simp at commit
  · rw [runCall, ended]
    rcases PostgresDeliveryRepository.createPlannedItem_effect _ _ _ _ result with
      ⟨rolled, _⟩ | ⟨final, commit, inserted⟩
    · simp at rolled
    · obtain rfl : after = final := by simpa using commit
      rw [inserted.deliveries, List.map_append, List.mem_append]
      exact Or.inr (List.mem_singleton_self _)

theorem insertDelivery_alert (now : Timestamp) (item : PlannedDelivery) (db after : Db)
    (h : insertDelivery now item db = .ok (true, after)) :
    AlertStored db item.delivery.alertId.uuid := by
  simp only [insertDelivery] at h
  split at h
  · simp at h
  · split at h
    · simp at h
    · split at h
      · simp at h
      · rename_i known
        obtain ⟨row, member, same⟩ := List.mem_map.mp (not_not.mp known)
        exact ⟨row, member, same⟩

theorem createPlannedItem_alert (env : Env) (item : PlannedDelivery) (db after : Db)
    (value : Unit) (h : PostgresDeliveryRepository.createPlannedItem env.now item db =
      .ok (.commit value after)) : AlertStored db item.delivery.alertId.uuid := by
  simp only [PostgresDeliveryRepository.createPlannedItem, bind_ok] at h
  obtain ⟨⟨inserted, middle⟩, first, rest⟩ := h
  cases inserted with
  | false => simp [pure, Except.pure] at rest
  | true => exact insertDelivery_alert env.now item db middle first

inductive RowsGoOn (env : Env) (db after : Db) : (call : Call) → Except Failure call.Res → Prop where
  | follow {call : Call} {answer : Except Failure call.Res}
      (origin : ∀ later ∈ after.deliveries, ∃ row ∈ db.deliveries, Follows row later)
      (keys : after.deliveries.map (·.idempotencyKeyHash) =
        db.deliveries.map (·.idempotencyKeyHash)) : RowsGoOn env db after call answer
  | planned {item : PlannedDelivery} (stored : AlertStored db item.delivery.alertId.uuid)
      (inserted : Inserted env.now item db after) :
      RowsGoOn env db after (.createPlannedItem item) (.ok ())

theorem advanceDelivery_keys (now : Timestamp) (delivery : Delivery) (db : Db) :
    (advanceDelivery now delivery db).2.deliveries.map (·.idempotencyKeyHash) =
      db.deliveries.map (·.idempotencyKeyHash) :=
  map_key_updateWhere _ _ _ _ fun _ => rfl

theorem claimedAll_keys {now : Timestamp} {rows : List DeliveryRow} {claimed : List Delivery}
    {db after : Db} (claimedAll : ClaimedAll now rows claimed db after) :
    after.deliveries.map (·.idempotencyKeyHash) = db.deliveries.map (·.idempotencyKeyHash) := by
  induction claimedAll with
  | none => rfl
  | more first rest ih =>
      obtain ⟨_, _, _, _, advanced⟩ := first.claimed
      rw [ih, advanced.deliveries, advanceDelivery_keys]

theorem createPlannedItem_rows (env : Env) (item : PlannedDelivery) (db : Db) :
    RowsGoOn env db (runCall env (.createPlannedItem item) db).2 (.createPlannedItem item)
      (runCall env (.createPlannedItem item) db).1 := by
  have still : ∀ answer, RowsGoOn env db db (.createPlannedItem item) answer :=
    fun answer => .follow (fun row member => ⟨row, member, .refl row⟩) rfl
  rcases transaction_cases env.fault Failure.database
      (PostgresDeliveryRepository.createPlannedItem env.now item) db with
    ⟨_, _, ended⟩ | ⟨_, _, ended⟩ | ⟨value, after, result, ended⟩
  · rw [runCall, ended]
    exact still _
  · rw [runCall, ended]
    exact still _
  · rw [runCall, ended]
    rcases PostgresDeliveryRepository.createPlannedItem_effect _ _ _ _ result with
      ⟨rolled, _⟩ | ⟨final, commit, inserted⟩
    · simp at rolled
    · obtain rfl : after = final := by simpa using commit
      exact .planned (createPlannedItem_alert env item db after value result) inserted

theorem Informed.rowsGoOn (informed : Informed world.db call) (agrees : Agrees world) (env : Env) :
    RowsGoOn env world.db (runCall env call world.db).2 call (runCall env call world.db).1 := by
  by_cases plans : ∃ item, call = .createPlannedItem item
  · obtain ⟨item, rfl⟩ := plans
    exact createPlannedItem_rows env item world.db
  · have wrote := informed.wrote agrees.ledger env
    have continues := wrote.continues informed agrees.ledger
    refine .follow ?_ ?_
    · intro later member
      exact (continues.origin later member).resolve_right fun ⟨item, same, _⟩ => plans ⟨item, same⟩
    · generalize (runCall env call world.db).1 = answer at wrote
      generalize (runCall env call world.db).2 = after at wrote
      cases wrote with
      | quiet same silent => rw [same.deliveries]
      | @planned item inserted => exact absurd ⟨item, rfl⟩ plans
      | claimed locked all => exact claimedAll_keys all
      | applied advanced => rw [advanced.deliveries, advanceDelivery_keys]
      | attempted advanced => rw [advanced.deliveries, advanceDelivery_keys]

theorem lineage_execute (agrees : Agrees world) (informed : Informed world.db call)
    (grounded : deployment.grounds jobs pid (world.trace pid) call)
    (lineage : Lineage deployment jobs world) :
    Lineage deployment jobs (world.execute pid call env).2 := by
  obtain ⟨announces, alerts⟩ := informed.announces agrees.ledger env
  have outbox := announces.goesOn alerts lineage.distinct lineage.announced
  have rows := informed.rowsGoOn agrees env
  constructor
  case answered =>
    intro entry member
    rcases List.mem_cons.mp member with rfl | old
    · exact ⟨env, rfl⟩
    · exact lineage.answered entry old
  case founded => exact lineage.founded_execute grounded
  case legible => exact alerts.legible lineage.legible
  case distinct => exact outbox.distinct
  case announced => exact outbox.announced
  case once =>
    rw [takenIds_execute, List.nodup_append]
    refine ⟨outbox.apart, lineage.once, ?_⟩
    intro id new other old same
    obtain ⟨event, member, rfl⟩ := List.mem_map.mp new
    subst same
    obtain ⟨entry, recorded, inTaken⟩ := List.mem_flatMap.mp old
    obtain ⟨earlier, among, equal⟩ := List.mem_map.mp inTaken
    obtain ⟨row, inTable, named, unclaimed⟩ := outbox.free event member
    obtain ⟨stored, there, id, _, _, claimed⟩ := lineage.taken entry recorded earlier among
    have key : row.id = stored.id := calc
      row.id = event.id := named
      _ = earlier.id := equal.symm
      _ = stored.id := id.symm
    have one := eq_of_key (·.id) _ lineage.distinct row stored inTable there key
    exact claimed (one ▸ unclaimed)
  case taken =>
    intro entry member event handed
    rcases List.mem_cons.mp member with rfl | old
    · obtain ⟨row, inTable, id, aggregate, claimed, type⟩ := outbox.taken event handed
      refine ⟨row, inTable, id, aggregate, ?_, claimed⟩
      cases call with
      | claimUnpublished eventType limit =>
          have asked : eventType = SubscriptionMatching.alertCreatedEventType := grounded
          rw [type eventType limit rfl, asked]
      | _ => exact absurd handed List.not_mem_nil
    · obtain ⟨row, inTable, id, aggregate, type, claimed⟩ := lineage.taken entry old event handed
      obtain ⟨later, there, sameId, sameAggregate, sameType, still, _⟩ := outbox.kept row inTable
      exact ⟨later, there, sameId.trans id, sameAggregate.trans aggregate, sameType.trans type,
        still claimed⟩
  case published =>
    intro later member published
    rcases outbox.published later member published with ⟨row, old, same, before⟩ | latest
    · obtain ⟨marker, time, found, recorded⟩ := lineage.published row old before
      exact ⟨marker, time, found, same ▸ List.mem_cons_of_mem _ recorded⟩
    · refine ⟨pid, env.now, world.db, ?_⟩
      rw [World.execute_history, latest pid env.now world.db]
      exact List.mem_cons_self
  case keys =>
    rw [World.execute_db]
    generalize (runCall env call world.db).1 = answer at rows
    generalize (runCall env call world.db).2 = after at rows
    cases rows with
    | follow origin keys => exact keys ▸ lineage.keys
    | planned stored inserted =>
        rw [inserted.deliveries, List.map_append]
        exact nodup_snoc _ _ lineage.keys inserted.newKey
  case persisted =>
    intro item persisted
    rw [World.execute_db]
    obtain ⟨owner, time, before, member⟩ := persisted
    rcases List.mem_cons.mp member with latest | old
    · obtain ⟨rfl, rfl, answer, _, _⟩ := Entry.mk.inj latest
      exact createPlannedItem_key env item world.db (eq_of_heq answer).symm
    · have there := lineage.persisted item ⟨owner, time, before, old⟩
      generalize (runCall env call world.db).1 = answer at rows
      generalize (runCall env call world.db).2 = after at rows
      cases rows with
      | follow origin keys => exact keys ▸ there
      | planned stored inserted =>
          rw [inserted.deliveries, List.map_append]
          exact List.mem_append_left _ there
  case planned =>
    intro later member
    rw [World.execute_db] at member
    rw [World.execute_history]
    generalize (runCall env call world.db).1 = answer at rows
    generalize (runCall env call world.db).2 = after at rows member
    cases rows with
    | follow origin keys =>
        obtain ⟨row, old, follows⟩ := origin later member
        obtain ⟨owner, item, time, before, recorded, since⟩ := lineage.planned row old
        exact ⟨owner, item, time, before, List.mem_cons_of_mem _ recorded, since.trans follows⟩
    | @planned item stored inserted =>
        rcases (inserted.rows later).mp member with old | rfl
        · obtain ⟨owner, item, time, before, recorded, since⟩ := lineage.planned later old
          exact ⟨owner, item, time, before, List.mem_cons_of_mem _ recorded, since⟩
        · exact ⟨pid, item, env.now, world.db, List.mem_cons_self, .refl _⟩
  case alerts =>
    intro later member
    rw [World.execute_db] at member
    have moved : AlertStored world.db later.alertId.uuid := by
      generalize (runCall env call world.db).1 = answer at rows
      generalize (runCall env call world.db).2 = after at rows member
      cases rows with
      | follow origin keys =>
          obtain ⟨row, old, follows⟩ := origin later member
          rw [follows.fixed]
          exact lineage.alerts row old
      | planned stored inserted =>
          rcases (inserted.rows later).mp member with old | rfl
          · exact lineage.alerts later old
          · exact stored
    exact moved.kept alerts
  case found =>
    intro owner id answer time before member
    rcases List.mem_cons.mp member with latest | old
    · obtain ⟨rfl, rfl, same, _, _⟩ := Entry.mk.inj latest
      rw [eq_of_heq same]
      exact findAlert_legible env id world.db lineage.legible (lineage.reads agrees grounded)
    · exact lineage.found owner id answer time before old

theorem lineage_initial (deployment : Deployment) (jobs : Nat → Job) (db : Db)
    (initial : db.Initial) : Lineage deployment jobs (World.initial db) := by
  constructor <;> simp [World.initial, initial.outboxEvents, initial.deliveries, initial.alerts,
    takenIds, Persisted]

end Step

abbrev Deployment.groundedRules (deployment : Deployment) (jobs : Nat → Job) :
    Rules deliveryMachine := clockRules.after recordedCalls (deployment.grounds jobs)

theorem groundedRules_watched (deployment : Deployment) (jobs : Nat → Job) :
    Watched (deployment.groundedRules jobs) jobs False where
  timely := fun _ _ _ _ legal => legal.1
  errors := fun impossible => impossible.elim
  drops := fun impossible => impossible.elim

theorem reach_lineage (deployment : Deployment) (jobs : Nat → Job) (init : Db)
    (initial : init.Initial) (config : Pool)
    (reached : deployment.Reaches jobs clockRules init config) :
    Lineage deployment jobs config.state ∧ Exclusive deployment.setup jobs config.state := by
  have grounded := reach_grounded deployment jobs clockRules init config reached
  have watched := groundedRules_watched deployment jobs
  refine ⟨?_, pool_exclusive deployment jobs watched init initial config grounded⟩
  apply reach_invariant deployment jobs watched init initial
  · exact lineage_initial deployment jobs init initial
  · intro world pid call env exclusive proper legal lineage
    have informed := Proper.informed deployment.setup (jobs pid) pid world call exclusive.agrees proper
    exact lineage_execute exclusive.agrees informed legal.2 lineage
  · exact grounded

end SafeCameroon
