import SafeCameroon.Delivery.Lineage

namespace SafeCameroon

open Table Process

section Plan

variable (setup : WorkerSetup) (fresh : Supply) (alert : Alert) (subscriptions : List Subscription)
  (preferences : ConsumerId → Option DeliveryPreference)

theorem surveyedPlan_item (item : PlannedDelivery)
    (member : item ∈ surveyedPlan setup fresh alert subscriptions preferences) :
    item.delivery.alertId = alert.id ∧
      item.idempotencyKeyHash = setup.sha256 item.delivery.idempotencyKey := by
  simp only [surveyedPlan, planDeliveries, List.mem_map] at member
  obtain ⟨⟨planned, index⟩, indexed, rfl⟩ := member
  obtain ⟨_, _, _, rfl⟩ := planDeliveriesDomain_fresh fresh alert _ preferences _ planned
    (List.fst_mem_of_mem_zipIdx indexed)
  exact ⟨rfl, rfl⟩

theorem surveyedPlan_rows :
    (surveyedPlan setup fresh alert subscriptions preferences).map (·.delivery.planRow) =
      dueRows setup.unicode alert subscriptions preferences := by
  rw [← planDeliveriesDomain_rows setup.unicode alert subscriptions preferences fresh
    RetryPolicy.standard, surveyedPlan, planDeliveries, List.map_map]
  conv => rhs; rw [← List.zipIdx_map_fst 0 (planDeliveriesDomain _ _ _ _ _), List.map_map]
  rfl

end Plan

/-- Why a delivery is stored: a worker had read the alert, a subscription of the consumer that matches
it, and a preference of the consumer with the endpoint at this tier. -/
structure Warranted (setup : WorkerSetup) (world : World) (row : DeliveryRow) (pid : Nat)
    (alert : Alert) (subscriptions : List Subscription) (preference : DeliveryPreference)
    (index : Nat) (endpoint : ChannelEndpoint) : Prop where
  subject : alert.id = row.alertId
  readAlert : world.Learnt pid (.findAlert row.alertId) (some alert)
  readSubscriptions : world.Learnt pid .listSubscriptions subscriptions
  readPreference : world.Learnt pid (.findPreference row.consumerId) (some preference)
  matching : ∃ subscription ∈ subscriptions, subscription.consumerId = row.consumerId ∧
    subscription.Matches setup.unicode alert
  listed : preference.channels[index]? = some endpoint
  channel : row.channel = endpoint.channel
  address : row.endpointAddress = endpoint.address
  tier : row.tier = if preference.strategy = .all then 0 else index
  reasons : row.matchingSubscriptions =
    matchedSubscriptionsToJson (matchingOf setup.unicode alert subscriptions row.consumerId)
  key : row.idempotencyKeyHash = setup.sha256 (DeliveryIdempotencyKey.new row.consumerId
    row.alertId row.channel row.endpointAddress)

def Wanted (setup : WorkerSetup) (world : World) (row : DeliveryRow) : Prop :=
  ∃ pid alert subscriptions preference index endpoint,
    Warranted setup world row pid alert subscriptions preference index endpoint

section Lineage

variable {deployment : Deployment} {jobs : Nat → Job} {world : World}

theorem Lineage.subject (lineage : Lineage deployment jobs world) {pid : Nat} {id : AlertId}
    {alert : Alert} (learnt : world.Learnt pid (.findAlert id) (some alert)) : alert.id = id := by
  obtain ⟨time, before, _, member, _⟩ := learnt
  rcases lineage.found pid id _ time before member with failed | ⟨other, answer, same⟩
  · cases failed
  · obtain rfl : alert = other := by simpa using answer
    exact same

theorem Lineage.wanted (lineage : Lineage deployment jobs world) (row : DeliveryRow)
    (member : row ∈ world.db.deliveries) : Wanted deployment.setup world row := by
  obtain ⟨pid, item, time, before, recorded, follows⟩ := lineage.planned row member
  obtain ⟨alertId, fresh, alert, subscriptions, preferences, surveyed, inPlan⟩ :=
    lineage.founded _ recorded
  have readAlert := lineage.learnt surveyed.readAlert
  have subject := lineage.subject readAlert
  obtain ⟨sameAlert, key⟩ := surveyedPlan_item deployment.setup fresh alert subscriptions preferences
    item inPlan
  have due : item.delivery.planRow ∈
      dueRows deployment.setup.unicode alert subscriptions preferences := by
    rw [← surveyedPlan_rows deployment.setup fresh]
    exact List.mem_map_of_mem inPlan
  obtain ⟨preference, index, endpoint, ⟨subscription, listed, owner, holds⟩, stored, here, channel,
    address, tier, reasons⟩ := (mem_dueRows _ _ _ _ _).mp due
  have matched : item.delivery.consumerId ∈
      matchedConsumers deployment.setup.unicode alert subscriptions :=
    (mem_matchedConsumers _ _ _ _).mpr ⟨subscription, listed, owner, holds⟩
  have readPreference := lineage.learnt (surveyed.readPreferences _ matched)
  have chosen : preferences item.delivery.consumerId = some preference := stored
  have placed : item.delivery.tier = preference.tierAt index := tier
  have alertId : row.alertId = item.delivery.alertId := by rw [follows.fixed]; rfl
  have consumerId : row.consumerId = item.delivery.consumerId := by rw [follows.fixed]; rfl
  refine ⟨pid, alert, subscriptions, preference, index, endpoint, ?_⟩
  constructor
  · rw [alertId, sameAlert]
  · rw [alertId, sameAlert, subject]
    exact readAlert
  · exact lineage.learnt surveyed.readSubscriptions
  · rw [consumerId, ← chosen]
    exact readPreference
  · exact ⟨subscription, listed, owner.trans consumerId.symm, holds⟩
  · exact here
  · rw [follows.fixed]
    exact channel
  · rw [follows.fixed]
    exact address
  · rw [follows.fixed]
    change item.delivery.tier = _
    rw [placed, DeliveryPreference.tierAt]
    cases preference.strategy <;> rfl
  · rw [consumerId, follows.fixed]
    exact congrArg matchedSubscriptionsToJson reasons
  · rw [follows.fixed]
    exact key

def Collision (sha256 : String → Bytes) : Prop :=
  ∃ left right, left ≠ right ∧ sha256 left = sha256 right

/-- The delivery is stored under its key, and as this delivery unless two keys collide. -/
def StoredFor (setup : WorkerSetup) (world : World) (alertId : AlertId) (consumerId : ConsumerId)
    (endpoint : ChannelEndpoint) : Prop :=
  ∃ delivery ∈ world.db.deliveries,
    delivery.idempotencyKeyHash = setup.sha256 (DeliveryIdempotencyKey.new consumerId alertId
      endpoint.channel endpoint.address) ∧
    (delivery.consumerId = consumerId ∧ delivery.alertId = alertId ∧
        delivery.channel = endpoint.channel ∧ delivery.endpointAddress = endpoint.address ∨
      Collision setup.sha256)

theorem Lineage.dueStored (lineage : Lineage deployment jobs world) {pid : Nat} {fresh : Supply}
    {alert : Alert} {subscriptions : List Subscription}
    {preferences : ConsumerId → Option DeliveryPreference}
    (created : ∀ item ∈ surveyedPlan deployment.setup fresh alert subscriptions preferences,
      Heard (world.trace pid) (.createPlannedItem item) ())
    (consumerId : ConsumerId) (endpoint : ChannelEndpoint)
    (due : Due deployment.setup.unicode alert subscriptions preferences consumerId endpoint) :
    StoredFor deployment.setup world alert.id consumerId endpoint := by
  obtain ⟨matched, preference, chosen, listed⟩ := due
  obtain ⟨index, inRange, here⟩ := List.mem_iff_getElem.mp listed
  have inRows := (mem_dueRows deployment.setup.unicode alert subscriptions preferences
    { consumerId, channel := endpoint.channel, endpointAddress := endpoint.address
      tier := preference.tierAt index
      matchingSubscriptions :=
        matchingOf deployment.setup.unicode alert subscriptions consumerId }).mpr
    ⟨preference, index, endpoint, matched, chosen, by rw [List.getElem?_eq_getElem inRange, here],
      rfl, rfl, rfl, rfl⟩
  rw [← surveyedPlan_rows deployment.setup fresh, List.mem_map] at inRows
  obtain ⟨item, inPlan, same⟩ := inRows
  obtain ⟨sameAlert, key⟩ := surveyedPlan_item _ _ _ _ _ item inPlan
  have wanted : item.delivery.idempotencyKey = DeliveryIdempotencyKey.new consumerId alert.id
      endpoint.channel endpoint.address := by
    have consumer := congrArg PlanRow.consumerId same
    have channel := congrArg PlanRow.channel same
    have address := congrArg PlanRow.endpointAddress same
    simp only [Delivery.planRow] at consumer channel address
    rw [Delivery.idempotencyKey, consumer, channel, address, sameAlert]
  obtain ⟨moment, tables, persisted⟩ := World.mem_trace pid world _ _ (created item inPlan)
  have there := lineage.persisted item ⟨pid, moment, tables, persisted⟩
  obtain ⟨delivery, inDeliveries, hash⟩ := List.mem_map.mp there
  have stored : delivery.idempotencyKeyHash = deployment.setup.sha256
      (DeliveryIdempotencyKey.new consumerId alert.id endpoint.channel endpoint.address) := by
    rw [hash, key, wanted]
  refine ⟨delivery, inDeliveries, stored, ?_⟩
  obtain ⟨_, _, _, _, _, _, warranted⟩ := lineage.wanted delivery inDeliveries
  by_cases equal : DeliveryIdempotencyKey.new delivery.consumerId delivery.alertId delivery.channel
      delivery.endpointAddress = DeliveryIdempotencyKey.new consumerId alert.id endpoint.channel
        endpoint.address
  · exact Or.inl (DeliveryIdempotencyKey.new_injective _ _ _ _ _ _ _ _ equal)
  · exact Or.inr ⟨_, _, equal, warranted.key.symm.trans stored⟩

end Lineage

def Meant (setup : WorkerSetup) (world : World) (pid : Nat) (id : DeliveryId)
    (channel : ChannelType) (message : OutboundMessage) : Prop :=
  ∃ row ∈ world.db.deliveries, row.id = id ∧ row.channel = channel ∧ Wanted setup world row ∧
    message.endpointAddress = row.endpointAddress ∧
    ∃ delivery alert consumer, SameDelivery row delivery ∧
      world.Learnt pid (.findAlert row.alertId) (some alert) ∧ alert.id = row.alertId ∧
      world.Learnt pid (.findConsumer row.consumerId) consumer ∧
      message = buildOutboundMessage setup.unicode alert delivery (consumer.bind (·.locale))

/-- Everything that is due by one reading of the alert, the subscriptions and the preferences is stored
under its key. -/
def InFull (setup : WorkerSetup) (world : World) (alertId : AlertId) : Prop :=
  ∃ pid alert subscriptions preferences, alert.id = alertId ∧
    world.Learnt pid (.findAlert alertId) (some alert) ∧
    world.Learnt pid .listSubscriptions subscriptions ∧
    (∀ consumerId ∈ matchedConsumers setup.unicode alert subscriptions,
      world.Learnt pid (.findPreference consumerId) (preferences consumerId)) ∧
    ∀ consumerId endpoint, Due setup.unicode alert subscriptions preferences consumerId endpoint →
      StoredFor setup world alertId consumerId endpoint

theorem Lineage.inFull {deployment : Deployment} {jobs : Nat → Job} {world : World}
    (lineage : Lineage deployment jobs world) (row : OutboxRow)
    (member : row ∈ world.db.outboxEvents) (published : row.publishedAt ≠ none) :
    row.eventType = SubscriptionMatching.alertCreatedEventType ∧
      InFull deployment.setup world ⟨row.aggregateId⟩ := by
  obtain ⟨pid, time, before, recorded⟩ := lineage.published row member published
  obtain ⟨event, took, id, handled⟩ := lineage.founded _ recorded
  obtain ⟨stored, inTable, named, aggregate, type⟩ := lineage.took took
  obtain rfl := eq_of_key (·.id) _ lineage.distinct row stored member inTable
    (id.symm.trans named.symm)
  refine ⟨type, ?_⟩
  rw [aggregate]
  rcases handled with gone | ⟨fresh, alert, subscriptions, preferences, surveyed, created⟩
  · obtain ⟨found, moment, asked⟩ := World.mem_trace pid world _ _ gone
    rcases lineage.found pid _ _ _ _ asked with failed | ⟨alert, answer, _⟩
    · cases failed
    · cases answer
  · have readAlert := lineage.learnt surveyed.readAlert
    have subject := lineage.subject readAlert
    refine ⟨pid, alert, subscriptions, preferences, subject, readAlert,
      lineage.learnt surveyed.readSubscriptions,
      fun consumerId matched => lineage.learnt (surveyed.readPreferences consumerId matched), ?_⟩
    intro consumerId endpoint due
    rw [← subject]
    exact lineage.dueStored created consumerId endpoint due

open Scenario

theorem scenario_sent (holds : Pool → Bool)
    (h : (play (deployment.pool jobs) timely (runs 0 1 1 ++ runs 1 7 10 ++ runs 2 6 20)
      (initially (World.initial store))).any holds = true) :
    ∃ config, deployment.Reaches jobs clockRules store config ∧ holds config = true := by
  obtain ⟨config, arrived, held, _⟩ := play_reaches (deployment.pool jobs)
    (initially (World.initial store) : Pool) timely timely_sound
    _ holds h
  exact ⟨config, arrived, held⟩

section Runs

variable (deployment : Deployment) (jobs : Nat → Job) (init : Db) (initial : init.Initial)
  (config : Pool) (reached : deployment.Reaches jobs clockRules init config)

include initial reached in
/-- However workers, requests and callbacks interleave, fail and stop, only announcements of alerts are
marked as published, and each only after everything due to it was stored. -/
theorem published_in_full (row : OutboxRow) (member : row ∈ config.state.db.outboxEvents)
    (published : row.publishedAt ≠ none) :
    row.eventType = SubscriptionMatching.alertCreatedEventType ∧
      InFull deployment.setup config.state ⟨row.aggregateId⟩ := by
  obtain ⟨lineage, _⟩ := reach_lineage deployment jobs init initial config reached
  exact lineage.inFull row member published

theorem published_in_full_scenario : ∃ (config : Pool) (row : OutboxRow),
    row ∈ config.state.db.outboxEvents ∧ row.publishedAt ≠ none ∧
      row.eventType = SubscriptionMatching.alertCreatedEventType ∧
      InFull setup config.state ⟨row.aggregateId⟩ := by
  obtain ⟨config, arrived, found⟩ := scenario_sent
    (fun config => config.state.db.outboxEvents.any (·.publishedAt.isSome)) (by decide +kernel)
  obtain ⟨row, member, published⟩ := List.any_eq_true.mp found
  have marked : row.publishedAt ≠ none := Option.isSome_iff_ne_none.mp published
  exact ⟨config, row, member, marked,
    published_in_full Scenario.deployment Scenario.jobs store store_initial config arrived row member
      marked⟩

include initial reached in
/-- In every run an announcement is handed out to one worker at most, and only once. -/
theorem announcements_taken_once : (takenIds config.state.history).Nodup :=
  (reach_lineage deployment jobs init initial config reached).1.once

theorem announcements_taken_once_scenario : ∃ config : Pool,
    takenIds config.state.history ≠ [] ∧ (takenIds config.state.history).Nodup := by
  obtain ⟨config, arrived, taken⟩ := scenario_sent
    (fun config => decide (takenIds config.state.history ≠ [])) (by decide +kernel)
  exact ⟨config, of_decide_eq_true taken,
    announcements_taken_once Scenario.deployment Scenario.jobs store store_initial config arrived⟩

include initial reached in
/-- In every run every delivery is wanted, and none is stored twice. -/
theorem deliveries_wanted_once : (∀ row ∈ config.state.db.deliveries,
      Wanted deployment.setup config.state row) ∧
    (config.state.db.deliveries.map fun row =>
      (row.alertId, row.consumerId, row.channel, row.endpointAddress)).Nodup := by
  obtain ⟨lineage, _⟩ := reach_lineage deployment jobs init initial config reached
  refine ⟨lineage.wanted, ?_⟩
  have keyed : config.state.db.deliveries.map (·.idempotencyKeyHash) =
      (config.state.db.deliveries.map fun row =>
        (row.alertId, row.consumerId, row.channel, row.endpointAddress)).map fun place =>
          deployment.setup.sha256 (DeliveryIdempotencyKey.new place.2.1 place.1 place.2.2.1
            place.2.2.2) := by
    rw [List.map_map]
    apply List.map_congr_left
    intro row member
    obtain ⟨_, _, _, _, _, _, warranted⟩ := lineage.wanted row member
    exact warranted.key
  have distinct := lineage.keys
  rw [keyed] at distinct
  exact List.Nodup.of_map _ distinct

theorem deliveries_wanted_once_scenario : ∃ config : Pool, config.state.db.deliveries.length = 2 ∧
    (∀ row ∈ config.state.db.deliveries, Wanted setup config.state row) ∧
    (config.state.db.deliveries.map fun row =>
      (row.alertId, row.consumerId, row.channel, row.endpointAddress)).Nodup := by
  obtain ⟨config, arrived, two⟩ := scenario_sent
    (fun config => decide (config.state.db.deliveries.length = 2)) (by decide +kernel)
  exact ⟨config, of_decide_eq_true two,
    deliveries_wanted_once Scenario.deployment Scenario.jobs store store_initial config arrived⟩

include initial reached in
/-- In every run every message that is handed to a provider is meant for its recipient. -/
theorem sends_meant (pid : Nat) (id : DeliveryId) (attempt : Nat) (channel : ChannelType)
    (message : OutboundMessage) (answer : Except Failure (Except ChannelError ChannelSendOutcome))
    (time : Timestamp) (before : Db)
    (sent : (⟨pid, .send id attempt channel message, answer, time, before⟩ : Entry) ∈
      config.state.history) : Meant deployment.setup config.state pid id channel message := by
  obtain ⟨lineage, exclusive⟩ := reach_lineage deployment jobs init initial config reached
  obtain ⟨delivery, alert, consumer, inHand, rfl, _, rfl, heard, asked, rfl⟩ :=
    lineage.founded _ sent
  obtain ⟨row, member, same, _⟩ := inHand_stale exclusive.agrees inHand
  have readAlert := lineage.learnt heard
  refine ⟨row, member, same.id, same.channel, lineage.wanted row member, same.endpointAddress.symm,
    delivery, alert, consumer, same, ?_, ?_, ?_, rfl⟩
  · rw [same.alertId]
    exact readAlert
  · rw [same.alertId]
    exact lineage.subject readAlert
  · rw [same.consumerId]
    exact lineage.learnt asked

theorem sends_meant_scenario : ∃ (config : Pool) (pid : Nat) (id : DeliveryId)
    (channel : ChannelType) (message : OutboundMessage),
    Meant setup config.state pid id channel message := by
  obtain ⟨config, arrived, found⟩ := scenario_sent
    (fun config => config.state.history.any fun entry => entry.call.sent ≠ []) (by decide +kernel)
  obtain ⟨⟨pid, call, answer, time, before⟩, member, sends⟩ := List.any_eq_true.mp found
  cases call with
  | send id attempt channel message =>
      exact ⟨config, pid, id, channel, message, sends_meant Scenario.deployment Scenario.jobs store
        store_initial config arrived pid id attempt channel message answer time before member⟩
  | _ => simp [Call.sent] at sends

include initial reached in
/-- In every run a worker that asks for an alert gets it, unless the database fails. -/
theorem alerts_always_found (pid : Nat) (id : AlertId) (answer : Except Failure (Option Alert))
    (time : Timestamp) (before : Db)
    (asked : (⟨pid, .findAlert id, answer, time, before⟩ : Entry) ∈ config.state.history) :
    answer = .error .database ∨ ∃ alert, answer = .ok (some alert) ∧ alert.id = id :=
  (reach_lineage deployment jobs init initial config reached).1.found pid id answer time before asked

theorem alerts_always_found_scenario : ∃ (config : Pool) (pid : Nat) (id : AlertId)
    (answer : Except Failure (Option Alert)) (time : Timestamp) (before : Db),
    (⟨pid, .findAlert id, answer, time, before⟩ : Entry) ∈ config.state.history ∧
      (answer = .error .database ∨ ∃ alert, answer = .ok (some alert) ∧ alert.id = id) := by
  obtain ⟨config, arrived, found⟩ := scenario_sent
    (fun config => config.state.history.any fun entry => (planningOf entry.pid [entry]).isSome)
    (by decide +kernel)
  obtain ⟨⟨pid, call, answer, time, before⟩, member, asks⟩ := List.any_eq_true.mp found
  cases call with
  | findAlert id =>
      exact ⟨config, pid, id, answer, time, before, member, alerts_always_found Scenario.deployment
        Scenario.jobs store store_initial config arrived pid id answer time before member⟩
  | _ => simp [planningOf] at asks

end Runs

end SafeCameroon
