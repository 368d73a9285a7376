import SafeCameroon.Aggregate.Claim
import SafeCameroon.Postgres.SubscriptionRules
import SafeCameroon.Postgres.Subscribers

namespace SafeCameroon

open Table

def channelEndpointToJson (endpoint : ChannelEndpoint) : Json :=
  .object
    [("channel", .string endpoint.channel.asDatabaseValue), ("address", .string endpoint.address)]

def channelsToJson (channels : List ChannelEndpoint) : Json :=
  .array (channels.map channelEndpointToJson)

def channelEndpointFromJson (value : Json) : Except Failure ChannelEndpoint := do
  let channel ← expect
    ("consumer_delivery_preferences.channels entries are written by this repository with a " ++
      "\"channel\" string") (value.index "channel").asStr
  let channel ← expect
    ("consumer_delivery_preferences.channels channel values are constrained to " ++
      "ChannelType::as_database_value's output") (ChannelType.fromDatabaseValue channel)
  let address ← expect
    ("consumer_delivery_preferences.channels entries are written by this repository with an " ++
      "\"address\" string") (value.index "address").asStr
  expect
    ("consumer_delivery_preferences rows are written by this repository from an already-validated " ++
      "ChannelEndpoint") (ChannelEndpoint.new channel address).toOption

/-- What the database keeps of a preference. -/
structure DeliveryPreferenceRecord where
  consumerId : ConsumerId
  strategy : String
  channels : Json

def deliveryPreferenceRecord (consumerId : ConsumerId) (preference : DeliveryPreference) :
    DeliveryPreferenceRecord :=
  { consumerId, strategy := preference.strategy.asDatabaseValue
    channels := channelsToJson preference.channels }

def deliveryPreferenceFromRow (row : DeliveryPreferenceRecord) : Except Failure DeliveryPreference := do
  let strategy ← expect
    "consumer_delivery_preferences.strategy is constrained by the delivery_strategy enum"
    (DeliveryStrategy.fromDatabaseValue row.strategy)
  let entries ← expect
    ("consumer_delivery_preferences.channels is constrained to be a JSON array by the CHECK " ++
      "constraint") row.channels.asArray
  let channels ← entries.mapM channelEndpointFromJson
  expect
    ("consumer_delivery_preferences rows are written by this repository from an already-validated " ++
      "DeliveryPreference") (DeliveryPreference.new strategy channels).toOption

def upsertRecord (record : DeliveryPreferenceRecord) (rows : List DeliveryPreferenceRecord) :
    List DeliveryPreferenceRecord :=
  record :: rows.filter fun row => row.consumerId ≠ record.consumerId

def findRecord (consumerId : ConsumerId) (rows : List DeliveryPreferenceRecord) :
    Except Failure (Option DeliveryPreference) :=
  match lookup (·.consumerId) consumerId rows with
  | none => .ok none
  | some row => (deliveryPreferenceFromRow row).map some

theorem ChannelEndpoint.new_address (endpoint : ChannelEndpoint) :
    ChannelEndpoint.new endpoint.channel endpoint.address = .ok endpoint := by
  simp [ChannelEndpoint.new, endpoint.trimmed, endpoint.nonblank]

theorem firstDuplicate_nodup (seen : List ChannelType) (channels : List ChannelEndpoint)
    (distinct : (seen ++ channels.map (·.channel)).Nodup) : firstDuplicate seen channels = none := by
  induction channels generalizing seen with
  | nil => rfl
  | cons endpoint rest ih =>
      have unseen : endpoint.channel ∉ seen := by
        intro member
        have apart := (List.nodup_append.mp distinct).2.2
        exact apart endpoint.channel member endpoint.channel List.mem_cons_self rfl
      simp only [firstDuplicate, unseen, if_false]
      apply ih
      simpa using distinct

theorem DeliveryPreference.new_channels (preference : DeliveryPreference) :
    DeliveryPreference.new preference.strategy preference.channels = .ok preference := by
  have none : firstDuplicate [] preference.channels = none :=
    firstDuplicate_nodup [] preference.channels (by simpa using preference.distinct)
  simp only [DeliveryPreference.new, preference.nonempty, dite_false]
  split
  · rename_i channel duplicate
    rw [none] at duplicate
    cases duplicate
  · rfl

theorem channelEndpointFromJson_reordered (endpoint : ChannelEndpoint) (stored : Json)
    (reordered : (channelEndpointToJson endpoint).Reordered stored) :
    channelEndpointFromJson stored = .ok endpoint := by
  simp only [channelEndpointFromJson, reordered.index]
  simp [channelEndpointToJson, Json.index, Json.get, Json.asStr, ChannelEndpoint.new_address,
    Except.toOption, bind, Except.bind]

/-- A list of objects is read back element by element, each from whatever order its members have. -/
theorem mapM_reordered {α : Type} (write : α → Json) (read : Json → Except Failure α)
    (values : List α)
    (inverse : ∀ value ∈ values, ∀ stored, (write value).Reordered stored → read stored = .ok value)
    (stored : List Json) (reordered : List.Forall₂ Json.Reordered (values.map write) stored) :
    stored.mapM read = .ok values := by
  induction values generalizing stored with
  | nil =>
      cases reordered
      rfl
  | cons value values ih =>
      cases reordered with
      | cons first rest =>
          have others := ih (fun other member => inverse other (List.mem_cons_of_mem _ member)) _ rest
          rw [List.mapM_cons, inverse value List.mem_cons_self _ first, others]
          rfl

theorem deliveryPreferenceFromRow_reordered (consumerId : ConsumerId) (preference : DeliveryPreference)
    (stored : Json) (reordered : (channelsToJson preference.channels).Reordered stored) :
    deliveryPreferenceFromRow
      { deliveryPreferenceRecord consumerId preference with channels := stored } = .ok preference := by
  obtain ⟨elements, rfl, each⟩ := reordered.elements
  have channels := mapM_reordered channelEndpointToJson channelEndpointFromJson preference.channels
    (fun endpoint _ => channelEndpointFromJson_reordered endpoint) elements each
  simp [deliveryPreferenceFromRow, deliveryPreferenceRecord, Json.asArray, channels,
    DeliveryPreference.new_channels, Except.toOption, bind, Except.bind]

theorem findRecord_upsertRecord (consumerId : ConsumerId) (preference : DeliveryPreference)
    (stored : Json) (reordered : (channelsToJson preference.channels).Reordered stored)
    (rows : List DeliveryPreferenceRecord) :
    findRecord consumerId (upsertRecord
      { deliveryPreferenceRecord consumerId preference with channels := stored } rows) =
        .ok (some preference) := by
  have read := deliveryPreferenceFromRow_reordered consumerId preference stored reordered
  have found : lookup (·.consumerId) consumerId (upsertRecord
      { deliveryPreferenceRecord consumerId preference with channels := stored } rows) =
        some { deliveryPreferenceRecord consumerId preference with channels := stored } := by
    simp [lookup, upsertRecord, deliveryPreferenceRecord]
  simp only [findRecord, found]
  exact congrArg (Except.map some) read

/-- The table of preferences, as the machines hold it, is the one of their records read back. -/
theorem findRecord_typed (consumerId : ConsumerId)
    (preferences : List (ConsumerId × DeliveryPreference)) :
    findRecord consumerId (preferences.map fun row => deliveryPreferenceRecord row.1 row.2) =
      .ok ((lookup (·.1) consumerId preferences).map (·.2)) := by
  have found : lookup (·.consumerId) consumerId
      (preferences.map fun row => deliveryPreferenceRecord row.1 row.2) =
        (lookup (·.1) consumerId preferences).map fun row => deliveryPreferenceRecord row.1 row.2 := by
    simp only [lookup, List.find?_map]
    rfl
  rw [findRecord, found]
  cases lookup (·.1) consumerId preferences with
  | none => rfl
  | some row =>
      have read := deliveryPreferenceFromRow_reordered row.1 row.2 _ (.same _)
      exact congrArg (Except.map some) read

theorem matchedSubscriptionFromJson_reordered (matched : MatchedSubscription)
    (bounded : matched.subscriptionVersion < 2 ^ 32) (stored : Json)
    (reordered : (matchedSubscriptionToJson matched).Reordered stored) :
    matchedSubscriptionFromJson stored = .ok matched := by
  have whole : storedMatch matched = matched := by
    simp only [storedMatch, Nat.mod_eq_of_lt bounded]
  simp only [matchedSubscriptionFromJson, reordered.index]
  exact (matchedSubscriptionFromJson_toJson matched).trans (congrArg Except.ok whole)

theorem planTargets_mem (consumerMatches : List ConsumerMatch)
    (preferences : ConsumerId → Option DeliveryPreference) (target : PlanTarget)
    (member : target ∈ planTargets consumerMatches preferences) :
    target.consumerMatch ∈ consumerMatches := by
  simp only [planTargets, List.mem_flatMap] at member
  obtain ⟨consumerMatch, listed, among⟩ := member
  cases preference : preferences consumerMatch.consumerId with
  | none => simp [preference] at among
  | some preference =>
      simp only [preference, List.mem_map] at among
      obtain ⟨_, _, rfl⟩ := among
      exact listed

theorem planDeliveries_mem (sha256 : String → Bytes) (fresh : Supply) (alert : Alert)
    (consumerMatches : List ConsumerMatch) (preferences : ConsumerId → Option DeliveryPreference)
    (retryPolicy : RetryPolicy) (actor : Actor) (requestId : Uuid) (item : PlannedDelivery)
    (planned : item ∈ planDeliveries sha256 fresh alert consumerMatches preferences retryPolicy actor
      requestId) :
    item.idempotencyKeyHash = sha256 item.delivery.idempotencyKey ∧
      ∃ consumerMatch ∈ consumerMatches,
        item.delivery.matchingSubscriptions = consumerMatch.matchingSubscriptions := by
  simp only [planDeliveries, List.mem_map] at planned
  obtain ⟨⟨planned, index⟩, indexed, rfl⟩ := planned
  obtain ⟨target, listed, supply, rfl⟩ := planDeliveriesDomain_fresh fresh alert consumerMatches
    preferences retryPolicy planned (List.fst_mem_of_mem_zipIdx indexed)
  exact ⟨rfl, target.consumerMatch, planTargets_mem consumerMatches preferences target listed, rfl⟩

theorem deliveryFromRow_plannedRow (now : Timestamp) (item : PlannedDelivery)
    (bounded : ∀ matched ∈ item.delivery.matchingSubscriptions, matched.subscriptionVersion < 2 ^ 32)
    (stored : Json)
    (reordered : (matchedSubscriptionsToJson item.delivery.matchingSubscriptions).Reordered stored) :
    deliveryFromRow { plannedRow now item with matchingSubscriptions := stored } =
      .ok item.delivery := by
  obtain ⟨elements, rfl, each⟩ := reordered.elements
  have matched := mapM_reordered matchedSubscriptionToJson matchedSubscriptionFromJson
    item.delivery.matchingSubscriptions
    (fun matched member => matchedSubscriptionFromJson_reordered matched (bounded matched member))
    elements each
  have whole : item.delivery.retryPolicy.maxAttempts % 2 ^ 32 =
      item.delivery.retryPolicy.maxAttempts := Nat.mod_eq_of_lt item.delivery.retryPolicy.bounded
  have nonzero : item.delivery.retryPolicy.maxAttempts ≠ 0 :=
    Nat.ne_of_gt item.delivery.retryPolicy.positive
  have policy : RetryPolicy.new (item.delivery.retryPolicy.maxAttempts % 2 ^ 32)
      (Nat.mod_lt _ (by decide)) = .ok item.delivery.retryPolicy := by
    simp only [RetryPolicy.new, whole]
    rw [dif_neg nonzero]
  simp only [deliveryFromRow, plannedRow, Json.asArray, ChannelType.from_as, DeliveryStatus.from_as,
    expect_some, matched, policy, Except.toOption, bind, Except.bind, pure, Except.pure]

/-- Preferences and planned deliveries survive the columns they are stored in. -/
theorem delivery_codecs_round_trip :
    (∀ consumerId preference stored rows, (channelsToJson preference.channels).Reordered stored →
      findRecord consumerId (upsertRecord
        { deliveryPreferenceRecord consumerId preference with channels := stored } rows) =
          .ok (some preference)) ∧
    ∀ sha256 fresh alert (consumerMatches : List ConsumerMatch) preferences retryPolicy actor
      requestId item,
      (∀ consumerMatch ∈ consumerMatches, ∀ matched ∈ consumerMatch.matchingSubscriptions,
        matched.subscriptionVersion < 2 ^ 32) →
      item ∈ planDeliveries sha256 fresh alert consumerMatches preferences retryPolicy actor
        requestId →
      ∀ now db after, insertDelivery now item db = .ok (true, after) →
        PostgresDeliveryRepository.findById item.delivery.id after = .ok (some item.delivery) ∧
        ∃ row, after.deliveries = db.deliveries ++ [row] ∧ row.id = item.delivery.id ∧
          row.idempotencyKeyHash = sha256 item.delivery.idempotencyKey ∧
          ∀ stored, row.matchingSubscriptions.Reordered stored →
            deliveryFromRow { row with matchingSubscriptions := stored } = .ok item.delivery := by
  constructor
  · intro consumerId preference stored rows reordered
    exact findRecord_upsertRecord consumerId preference stored reordered rows
  · intro sha256 fresh alert consumerMatches preferences retryPolicy actor requestId item bounded
      planned now db after inserted
    obtain ⟨digest, consumerMatch, listed, same⟩ := planDeliveries_mem sha256 fresh alert
      consumerMatches preferences retryPolicy actor requestId item planned
    have versions : ∀ matched ∈ item.delivery.matchingSubscriptions,
        matched.subscriptionVersion < 2 ^ 32 := by
      rw [same]
      exact bounded consumerMatch listed
    have effect := insertDelivery_effect now item db after true inserted
    simp only [Bool.true_eq_false, false_and, true_and, false_or] at effect
    obtain ⟨_, unused, _, rfl⟩ := effect
    have read := deliveryFromRow_plannedRow now item versions
    constructor
    · have found : lookup (·.id) item.delivery.id (db.deliveries ++ [plannedRow now item]) =
          some (plannedRow now item) := by
        have before : lookup DeliveryRow.id item.delivery.id db.deliveries = none := by
          rw [lookup_none]
          intro row member same
          exact unused (List.mem_map.mpr ⟨row, member, same⟩)
        simp only [lookup, List.find?_append] at before ⊢
        rw [before]
        simp [plannedRow]
      simp only [PostgresDeliveryRepository.findById, found]
      exact congrArg (Except.map some) (read _ (.same _))
    · exact ⟨plannedRow now item, rfl, rfl, digest, read⟩

def pushAddress : ChannelEndpoint :=
  { channel := .push, address := "\x7b\"endpoint\":\"https://push\"\x7d", trimmed := by decide
    nonblank := by decide }

def pushOnly : DeliveryPreference :=
  { strategy := .all, channels := [pushAddress], nonempty := by decide, distinct := by decide }

def pushAlertRow : AlertRow :=
  { id := ⟨10⟩, caseId := ⟨1⟩, policyId := "MISSING_CHILD_COMMUNITY", policyVersion := 1
    incidentType := .missingChild, severity := .high, visibility := .community
    trigger := .caseVerified, targetGeography := "Douala", status := .active, aggregateVersion := 1
    idempotencyKeyHash := none, issuedByOrganizationId := none }

def pushAlert : Alert :=
  { id := ⟨10⟩, caseId := ⟨1⟩, policyId := "MISSING_CHILD_COMMUNITY", policyVersion := 1
    incidentType := .missingChild, severity := .high, visibility := .community
    trigger := .caseVerified
    targetGeography := { text := "Douala", trimmed := TargetGeography.douala_trimmed
                         nonblank := TargetGeography.douala_nonblank }
    status := .active, fields := [], version := 1, issuedByOrganizationId := none }

def pushPlan : List PlannedDelivery :=
  planDeliveries (fun _ => [7]) (fun index => Fin.ofNat _ index) pushAlert
    [{ consumerId := ⟨1⟩
       matchingSubscriptions := [{ subscriptionId := ⟨3⟩, subscriptionVersion := 2 }] }]
    (fun _ => some pushOnly) .standard .automated 9

theorem delivery_codecs_round_trip_push :
    findRecord ⟨1⟩ (upsertRecord
      { deliveryPreferenceRecord ⟨1⟩ pushOnly with channels := .array [.object
        [("address", .string pushAddress.address), ("channel", .string "PUSH")]] } []) =
      .ok (some pushOnly) ∧
    ∀ item ∈ pushPlan, ∃ after,
      insertDelivery 0 item { Db.empty with alerts := [pushAlertRow] } = .ok (true, after) ∧
        PostgresDeliveryRepository.findById item.delivery.id after = .ok (some item.delivery) := by
  obtain ⟨preferences, deliveries⟩ := delivery_codecs_round_trip
  constructor
  · apply preferences
    apply Json.Reordered.array
    refine .cons (.object ?_ (List.Perm.swap _ _ [])) .nil
    simp
  · intro item member
    have inserted : ∃ after,
        insertDelivery 0 item { Db.empty with alerts := [pushAlertRow] } = .ok (true, after) := by
      obtain rfl := List.mem_singleton.mp member
      exact ⟨_, rfl⟩
    obtain ⟨after, inserted⟩ := inserted
    refine ⟨after, inserted, (deliveries _ _ _ _ _ _ _ _ item ?_ member 0 _ after inserted).1⟩
    simp

end SafeCameroon
