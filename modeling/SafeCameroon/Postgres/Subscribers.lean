import SafeCameroon.Postgres.Schema

namespace SafeCameroon

open Table

namespace PostgresConsumerRepository

def create (row : ConsumerRow) (db : Db) : Except Failure (Ending Db Unit) := do
  let consumers ← insertUnique .database (·.id) row db.consumers
  return .commit () { db with consumers }

def findById (consumerId : ConsumerId) (db : Db) : Option ConsumerRow :=
  lookup (·.id) consumerId db.consumers

theorem create_ok {db after : Db} {value : Unit} (row : ConsumerRow)
    (h : create row db = .ok (.commit value after)) :
    after = { db with consumers := db.consumers ++ [row] } ∧ row.id ∉ db.consumers.map (·.id) := by
  simp only [create, bind_ok, pure, Except.pure, Except.ok.injEq, Ending.commit.injEq] at h
  obtain ⟨consumers, inserted, _, rfl⟩ := h
  obtain ⟨rfl, unused⟩ := insertUnique_ok _ _ _ _ _ inserted
  exact ⟨rfl, unused⟩

end PostgresConsumerRepository

namespace PostgresSubscriptionRepository

def create (now : Timestamp) (subscription : Subscription) (db : Db) :
    Except Failure (Ending Db Unit) := do
  let subscriptions ← insertUnique .database (·.subscription.id)
    { subscription, createdAt := now } db.subscriptions
  return .commit () { db with subscriptions }

def findById (id : SubscriptionId) (db : Db) : Option Subscription :=
  (lookup (·.subscription.id) id db.subscriptions).map (·.subscription)

def listAllPage (tie : Uuid → Nat) (limit offset : Nat) (db : Db) : List Subscription :=
  (((orderBy (·.createdAt) (fun row => tie row.subscription.id.uuid) db.subscriptions).reverse.drop
    offset).take limit).map (·.subscription)

def listAll (tie : Uuid → Nat) (db : Db) : List Subscription :=
  (orderBy (·.createdAt) (fun row => tie row.subscription.id.uuid) db.subscriptions).map
    (·.subscription)

def findByConsumer (tie : Uuid → Nat) (consumerId : ConsumerId) (db : Db) : List Subscription :=
  (orderBy (·.createdAt) (fun row => tie row.subscription.id.uuid)
    (db.subscriptions.filter fun row => row.subscription.consumerId = consumerId)).map
    (·.subscription)

/-- Stores the new rules unless the subscription has moved on since it was read. -/
def update (auditEventId : Uuid) (subscription : Subscription) (actor : Actor) (requestId : Uuid)
    (db : Db) : Except Failure (Ending Db Bool) := do
  let selected := fun row : SubscriptionRow =>
    decide (row.subscription.id = subscription.id) &&
      decide (row.subscription.version + 1 = subscription.version)
  let change := fun row : SubscriptionRow => { row with
    subscription := { row.subscription with
      version := subscription.version, rules := subscription.rules
      nonempty := subscription.nonempty } }
  if db.subscriptions.countP selected = 1 then
    let db := { db with subscriptions := updateWhere selected change db.subscriptions }
    let db ← insertAuditEvent "SUBSCRIPTION" auditEventId actor "SUBSCRIPTION_UPDATED"
      subscription.id.uuid requestId db
    return .commit true db
  else return .rollback false

def delete (id : SubscriptionId) (db : Db) : Except Failure (Ending Db Unit) :=
  .ok (.commit () { db with
    subscriptions := db.subscriptions.filter fun row => row.subscription.id ≠ id })

section Effects

variable {db after : Db}

theorem create_ok {value : Unit} (now : Timestamp) (subscription : Subscription)
    (h : create now subscription db = .ok (.commit value after)) :
    after = { db with subscriptions := db.subscriptions ++ [{ subscription, createdAt := now }] } ∧
      subscription.id ∉ db.subscriptions.map (·.subscription.id) := by
  simp only [create, bind_ok, pure, Except.pure, Except.ok.injEq, Ending.commit.injEq] at h
  obtain ⟨subscriptions, inserted, _, rfl⟩ := h
  obtain ⟨rfl, unused⟩ := insertUnique_ok _ _ _ _ _ inserted
  exact ⟨rfl, unused⟩

def outdated (subscription : Subscription) (row : SubscriptionRow) : Bool :=
  decide (row.subscription.id = subscription.id) &&
    decide (row.subscription.version + 1 = subscription.version)

def revised (subscription : Subscription) (row : SubscriptionRow) : SubscriptionRow :=
  { row with
    subscription := { row.subscription with
      version := subscription.version, rules := subscription.rules
      nonempty := subscription.nonempty } }

theorem update_ok {value : Bool} (auditEventId : Uuid) (subscription : Subscription) (actor : Actor)
    (requestId : Uuid)
    (h : update auditEventId subscription actor requestId db = .ok (.commit value after)) :
    value = true ∧ db.subscriptions.countP (outdated subscription) = 1 ∧
      after = { db with
        subscriptions := updateWhere (outdated subscription) (revised subscription) db.subscriptions
        auditEvents := after.auditEvents } := by
  have named : (fun row : SubscriptionRow => decide (row.subscription.id = subscription.id) &&
    decide (row.subscription.version + 1 = subscription.version)) = outdated subscription := rfl
  simp only [update, named] at h
  split at h
  · rename_i single
    simp only [bind_ok, pure, Except.pure, Except.ok.injEq, Ending.commit.injEq, insertAuditEvent] at h
    obtain ⟨final, ⟨auditEvents, _, rfl⟩, rfl, rfl⟩ := h
    exact ⟨rfl, single, rfl⟩
  · simp [pure, Except.pure] at h

theorem update_rollback {value : Bool} (auditEventId : Uuid) (subscription : Subscription)
    (actor : Actor) (requestId : Uuid)
    (h : update auditEventId subscription actor requestId db = .ok (.rollback value)) :
    value = false := by
  simp only [update] at h
  split at h
  · simp [bind_ok, pure, Except.pure] at h
  · simpa [pure, Except.pure, eq_comm] using h

end Effects

end PostgresSubscriptionRepository

namespace PostgresDeliveryPreferenceRepository

def upsert (consumerId : ConsumerId) (preference : DeliveryPreference) (db : Db) :
    Except Failure (Ending Db Unit) :=
  .ok (.commit () { db with
    deliveryPreferences := (consumerId, preference) ::
      db.deliveryPreferences.filter fun row => row.1 ≠ consumerId })

def findByConsumer (consumerId : ConsumerId) (db : Db) : Option DeliveryPreference :=
  (lookup (·.1) consumerId db.deliveryPreferences).map (·.2)

end PostgresDeliveryPreferenceRepository

/-- What `record_if_new` of the durable replay guard does: true the first time a key is seen. A blank
event id fails the check on its column. -/
def PostgresWebhookReplayGuard.recordIfNew (channel : ChannelType) (providerEventId : String)
    (db : Db) : Except Failure (Ending Db Bool) :=
  if providerEventId.toList.all (· = ' ') then .error .database
  else if (channel, providerEventId) ∈ db.webhookReplayEvents then .ok (.commit false db)
  else .ok (.commit true { db with
    webhookReplayEvents := db.webhookReplayEvents ++ [(channel, providerEventId)] })

end SafeCameroon
