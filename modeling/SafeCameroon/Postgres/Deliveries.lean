import SafeCameroon.Postgres.Schema

namespace SafeCameroon

open Table

def matchedSubscriptionToJson (matched : MatchedSubscription) : Json :=
  .object
    [("subscription_id", .uuid matched.subscriptionId.uuid),
     ("subscription_version", .natural matched.subscriptionVersion)]

def matchedSubscriptionsToJson (matched : List MatchedSubscription) : Json :=
  .array (matched.map matchedSubscriptionToJson)

def matchedSubscriptionFromJson (value : Json) : Except Failure MatchedSubscription := do
  let subscriptionId ← expect
    ("deliveries.matching_subscriptions entries are written by this repository with a " ++
      "\"subscription_id\" string") (value.index "subscription_id").asStr
  let subscriptionId ← expect
    "deliveries.matching_subscriptions subscription_id is written as a valid UUID"
    (Uuid.parseStr subscriptionId)
  let subscriptionVersion ← expect
    ("deliveries.matching_subscriptions entries are written by this repository with a " ++
      "\"subscription_version\" number") (value.index "subscription_version").asU64
  return { subscriptionId := ⟨subscriptionId⟩, subscriptionVersion := subscriptionVersion % 2 ^ 32 }

/-- Reads a whole row back into the aggregate. The enum columns are read through their text. -/
def deliveryFromRow (row : DeliveryRow) : Except Failure Delivery := do
  let channel ← expect "deliveries.channel is constrained by the channel_type enum"
    (ChannelType.fromDatabaseValue row.channel.asDatabaseValue)
  let entries ← expect
    "deliveries.matching_subscriptions is constrained to be a JSON array by the CHECK constraint"
    row.matchingSubscriptions.asArray
  let matchingSubscriptions ← entries.mapM matchedSubscriptionFromJson
  let retryPolicy ← expect "deliveries.max_attempts is constrained to be positive"
    (RetryPolicy.new (row.maxAttempts % 2 ^ 32) (Nat.mod_lt _ (by decide))).toOption
  let status ← expect "deliveries.status is constrained by the delivery_status enum"
    (DeliveryStatus.fromDatabaseValue row.status.asDatabaseValue)
  return { id := row.id, alertId := row.alertId, consumerId := row.consumerId, channel
           endpointAddress := row.endpointAddress, tier := row.tier, matchingSubscriptions
           retryPolicy, status, attemptCount := row.attemptCount, version := row.aggregateVersion }

inductive DeliveryTransitionOutcome where
  | applied
  | conflict
  deriving DecidableEq, Repr

namespace PostgresDeliveryRepository

def findById (deliveryId : DeliveryId) (db : Db) : Except Failure (Option Delivery) :=
  match lookup (·.id) deliveryId db.deliveries with
  | none => .ok none
  | some row => (deliveryFromRow row).map some

def findByAlertId (tie : Uuid → Nat) (alertId : AlertId) (db : Db) : Except Failure (List Delivery) :=
  (orderBy (·.createdAt) (fun row => tie row.id.uuid)
    (db.deliveries.filter fun row => row.alertId = alertId)).mapM deliveryFromRow

/-- The first of the two statements of `find_by_provider_message_id`: the delivery of the latest
successful attempt with the message id, whatever its channel. Attempts of one number come in any
order. -/
def findSentAttempt (tie : Uuid → Nat) (providerMessageId : String) (db : Db) : Option DeliveryId :=
  let found := db.deliveryAttempts.filter fun row =>
    row.providerMessageId = some providerMessageId ∧ row.outcome = .sent
  (orderBy (·.attemptNumber) (fun row => tie row.id) found).getLast?.map (·.deliveryId)

end PostgresDeliveryRepository

/-- What the selecting statement of a claim sees: the start of its transaction and the committed rows
of that moment. -/
structure ClaimSnapshot where
  now : Timestamp
  rows : List DeliveryRow

/-- The `WHERE` clause of the claim. The row itself is the current one; the rows of the lower tiers
are those of the snapshot. -/
def claimable (snapshot : ClaimSnapshot) (row : DeliveryRow) : Bool :=
  decide (row.status = .queued ∨ row.status = .retrying) &&
    (match row.nextAttemptAt with
      | none => true
      | some time => decide (time ≤ snapshot.now)) &&
    (decide (row.tier = 0) || !(snapshot.rows.any fun lower =>
      decide (lower.alertId = row.alertId) && decide (lower.consumerId = row.consumerId) &&
        decide (lower.tier < row.tier) && decide (lower.status ≠ .failedPermanently)))

/-- `FOR UPDATE OF d SKIP LOCKED`: the candidates of the snapshot in order, without those another
transaction has locked; a row that changed since the snapshot is checked again as it is now. -/
def lockClaimable (tie : Uuid → Nat) (locked : List Uuid) (limit : Nat) (snapshot : ClaimSnapshot)
    (db : Db) : List DeliveryRow :=
  let candidates := orderBy (·.createdAt) (fun row => tie row.id.uuid)
    (snapshot.rows.filter (claimable snapshot))
  let free := candidates.filter fun row => row.id.uuid ∉ locked
  ((free.filterMap fun row => lookup (·.id) row.id db.deliveries).filter
    (claimable snapshot)).take limit

def advancedRow (now : Timestamp) (delivery : Delivery) (row : DeliveryRow) : DeliveryRow :=
  { row with
    status := delivery.status
    attemptCount := delivery.attemptCount
    aggregateVersion := delivery.version
    updatedAt := now
    nextAttemptAt := delivery.retryBackoff.map fun seconds => now + microseconds seconds }

/-- Moves a delivery from the version before to its version; false when no row had that one. -/
def advanceDelivery (now : Timestamp) (delivery : Delivery) (db : Db) : Bool × Db :=
  let selected := fun row : DeliveryRow =>
    decide (row.id = delivery.id) && decide (row.aggregateVersion + 1 = delivery.version)
  (decide (db.deliveries.countP selected = 1),
    { db with deliveries := updateWhere selected (advancedRow now delivery) db.deliveries })

def deliveryAttemptRow (attempt : DeliveryAttempt) : DeliveryAttemptRow :=
  match attempt.outcome with
  | .sent providerMessageId =>
      { id := attempt.id, deliveryId := attempt.deliveryId, attemptNumber := attempt.attemptNumber
        outcome := .sent, providerMessageId, retryable := none, failureReason := none }
  | .failed retryable reason =>
      { id := attempt.id, deliveryId := attempt.deliveryId, attemptNumber := attempt.attemptNumber
        outcome := .failed, providerMessageId := none, retryable := some retryable
        failureReason := some reason }

def insertDeliveryAttempt (attempt : DeliveryAttempt) (db : Db) : Except Failure Db := do
  let row := deliveryAttemptRow attempt
  let _ ← insertUnique .database (fun row => (row.deliveryId, row.attemptNumber)) row
    db.deliveryAttempts
  let deliveryAttempts ← insertUnique .database (·.id) row db.deliveryAttempts
  return { db with deliveryAttempts }

def insertDeliveryEvent (deliveryId : DeliveryId) (event : DeliveryEvent) (actor : Actor) (db : Db) :
    Except Failure Db := do
  let row : DeliveryEventRow :=
    { id := event.id, deliveryId, eventType := event.eventType
      aggregateVersion := event.aggregateVersion
      actorType := actor.asDatabaseValue, actorId := actor.actorId }
  let _ ← insertUnique .database (fun row => (row.deliveryId, row.aggregateVersion)) row
    db.deliveryEvents
  let deliveryEvents ← insertUnique .database (·.id) row db.deliveryEvents
  return { db with deliveryEvents }

/-- The event, the audit row and the outbox row that every delivery transition writes. -/
def recordDeliveryEvent (now : Timestamp) (delivery : Delivery) (event : DeliveryEvent)
    (actor : Actor) (auditEventId outboxEventId requestId : Uuid) (payload : Json) (db : Db) :
    Except Failure Db := do
  let db ← insertDeliveryEvent delivery.id event actor db
  let db ← insertAuditEvent "DELIVERY" auditEventId actor event.eventType.asDatabaseValue
    delivery.id.uuid requestId db
  insertOutboxEvent now "DELIVERY" outboxEventId delivery.id.uuid event.eventType.asDatabaseValue
    payload db

/-- False, without any write, when the idempotency key is taken. -/
def insertDelivery (now : Timestamp) (item : PlannedDelivery) (db : Db) :
    Except Failure (Bool × Db) := do
  let delivery := item.delivery
  let row : DeliveryRow :=
    { id := delivery.id, alertId := delivery.alertId, consumerId := delivery.consumerId
      channel := delivery.channel, endpointAddress := delivery.endpointAddress
      tier := delivery.tier, idempotencyKeyHash := item.idempotencyKeyHash
      matchingSubscriptions := matchedSubscriptionsToJson delivery.matchingSubscriptions
      status := delivery.status, attemptCount := delivery.attemptCount
      maxAttempts := delivery.retryPolicy.maxAttempts, aggregateVersion := delivery.version
      createdAt := now, updatedAt := now, nextAttemptAt := none }
  -- The cast to `i32` makes a larger bound negative, which the check on the column refuses.
  if 2 ^ 31 ≤ row.maxAttempts then .error .database
  else if row.idempotencyKeyHash ∈ db.deliveries.map (·.idempotencyKeyHash) then .ok (false, db)
  else if row.alertId ∉ db.alerts.map (·.id) then .error .database
  else
    let deliveries ← insertUnique .database (·.id) row db.deliveries
    return (true, { db with deliveries })

namespace PostgresDeliveryRepository

def claimRow (now : Timestamp) (fresh : Supply) (row : DeliveryRow) (db : Db) :
    Except Failure (Delivery × Db) := do
  let delivery ← deliveryFromRow row
  let (delivery, transition) ← expect "a claimed row is always Queued or Retrying"
    (startDeliveryAttempt fresh delivery .automated (fresh 4)).toOption
  let (advanced, db) := advanceDelivery now delivery db
  expect "a locked row is never modified concurrently" (if advanced then some () else none)
  let db ← recordDeliveryEvent now delivery transition.event transition.actor
    transition.auditEventId transition.outboxEventId transition.requestId
    (deliveryTransitionEventPayload delivery transition) db
  return (delivery, db)

def claimRows (now : Timestamp) (fresh : Supply) :
    Nat → List DeliveryRow → Db → Except Failure (List Delivery × Db)
  | _, [], db => .ok ([], db)
  | index, row :: rows, db => do
      let (delivery, db) ← claimRow now (fresh.part index) row db
      let (claimed, db) ← claimRows now fresh (index + 1) rows db
      return (delivery :: claimed, db)

/-- The part of `claim_next` that locks, starts and commits; the snapshot was taken before. -/
def claimNext (tie : Uuid → Nat) (locked : List Uuid) (fresh : Supply) (limit : Nat)
    (snapshot : ClaimSnapshot) (db : Db) : Except Failure (Ending Db (List Delivery)) := do
  let rows := lockClaimable tie locked limit snapshot db
  let (claimed, db) ← claimRows snapshot.now fresh 0 rows db
  return .commit claimed db

def createPlannedItem (now : Timestamp) (item : PlannedDelivery) (db : Db) :
    Except Failure (Ending Db Unit) := do
  let (inserted, db) ← insertDelivery now item db
  if inserted then
    let db ← recordDeliveryEvent now item.delivery item.event item.actor item.auditEventId
      item.outboxEventId item.requestId (deliveryRequestedEventPayload item) db
    return .commit () db
  else return .rollback ()

def applyTransition (now : Timestamp) (delivery : Delivery) (transition : DeliveryTransition)
    (db : Db) : Except Failure (Ending Db DeliveryTransitionOutcome) := do
  let (advanced, db) := advanceDelivery now delivery db
  if advanced then
    let db ← recordDeliveryEvent now delivery transition.event transition.actor
      transition.auditEventId transition.outboxEventId transition.requestId
      (deliveryTransitionEventPayload delivery transition) db
    return .commit .applied db
  else return .rollback .conflict

def applyAttemptTransition (now : Timestamp) (delivery : Delivery)
    (transition : DeliveryAttemptTransition) (db : Db) :
    Except Failure (Ending Db DeliveryTransitionOutcome) := do
  let (advanced, db) := advanceDelivery now delivery db
  if advanced then
    let db ← insertDeliveryAttempt transition.attempt db
    let db ← recordDeliveryEvent now delivery transition.event transition.actor
      transition.auditEventId transition.outboxEventId transition.requestId
      (deliveryAttemptEventPayload delivery transition) db
    return .commit .applied db
  else return .rollback .conflict

end PostgresDeliveryRepository

end SafeCameroon
