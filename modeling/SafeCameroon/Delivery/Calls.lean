import SafeCameroon.Library.Process
import SafeCameroon.Application.Channel
import SafeCameroon.Postgres.Alerts
import SafeCameroon.Postgres.Deliveries
import SafeCameroon.Postgres.Outbox
import SafeCameroon.Postgres.Subscribers

namespace SafeCameroon

open Table Process

/-- What requests to the other endpoints write to the tables that workers read. -/
inductive Edit where
  | createAlert (creation : AlertCreation)
  | cancelAlert (alert : Alert) (cancellation : AlertCancellation)
  | createConsumer (row : ConsumerRow)
  | createSubscription (subscription : Subscription)
  | updateSubscription (auditEventId : Uuid) (subscription : Subscription) (actor : Actor)
      (requestId : Uuid)
  | deleteSubscription (id : SubscriptionId)
  | upsertPreference (consumerId : ConsumerId) (preference : DeliveryPreference)

/-- The calls between which the delivery processes can be interleaved: one for each transaction and
each single query, one for each message handed to a provider, and one for each response a provider
gets. A `send` names the attempt it is made for, and a `respond` the callback it answers. -/
inductive Call where
  | claimUnpublished (eventType : String) (limit : Nat)
  | markPublished (id : Uuid)
  | findAlert (id : AlertId)
  | listSubscriptions
  | findPreference (consumerId : ConsumerId)
  | createPlannedItem (item : PlannedDelivery)
  | beginClaim
  | lockAndStart (limit : Nat) (snapshot : ClaimSnapshot)
  | findConsumer (id : ConsumerId)
  | send (deliveryId : DeliveryId) (attempt : Nat) (channel : ChannelType) (message : OutboundMessage)
  | findSentAttempt (providerMessageId : String)
  | findDelivery (id : DeliveryId)
  | findDeliveriesByAlert (id : AlertId)
  | applyTransition (delivery : Delivery) (transition : DeliveryTransition)
  | applyAttemptTransition (delivery : Delivery) (transition : DeliveryAttemptTransition)
  | recordIfNew (channel : ChannelType) (providerEventId : String)
  | respond (callback : Option (ChannelType × WebhookEvent)) (status : Nat)
  | edit (edit : Edit)

@[reducible] def Call.Res : Call → Type
  | .claimUnpublished _ _ => List ClaimedOutboxEvent
  | .markPublished _ => Unit
  | .findAlert _ => Option Alert
  | .listSubscriptions => List Subscription
  | .findPreference _ => Option DeliveryPreference
  | .createPlannedItem _ => Unit
  | .beginClaim => ClaimSnapshot
  | .lockAndStart _ _ => List Delivery
  | .findConsumer _ => Option ConsumerRow
  | .send _ _ _ _ => Except ChannelError ChannelSendOutcome
  | .findSentAttempt _ => Option DeliveryId
  | .findDelivery _ => Option Delivery
  | .findDeliveriesByAlert _ => List Delivery
  | .applyTransition _ _ => DeliveryTransitionOutcome
  | .applyAttemptTransition _ _ => DeliveryTransitionOutcome
  | .recordIfNew _ _ => Bool
  | .respond _ _ => Unit
  | .edit _ => Unit

@[reducible] def deliveryInterface : Interface := { Op := Call, Res := Call.Res, Err := Failure }

/-- What a call does not choose: the time, a fault of the database, the order of equal rows, the rows
that other transactions have locked, fresh identifiers, and the provider's reply. -/
structure Env where
  now : Timestamp
  fault : Bool
  tie : Uuid → Nat
  fieldTie : AlertFieldRow → Nat
  locked : List Uuid
  fresh : Supply
  reply : Except ChannelError ChannelSendOutcome

def runEdit (env : Env) : Edit → Db → Except Failure (Ending Db Unit)
  | .createAlert creation, db => do
      match ← PostgresAlertRepository.create env.now creation db with
      | .commit _ db => return .commit () db
      | .rollback _ => return .rollback ()
  | .cancelAlert alert cancellation, db => do
      match ← PostgresAlertRepository.cancel env.now alert cancellation db with
      | .commit _ db => return .commit () db
      | .rollback _ => return .rollback ()
  | .createConsumer row, db => PostgresConsumerRepository.create row db
  | .createSubscription subscription, db =>
      PostgresSubscriptionRepository.create env.now subscription db
  | .updateSubscription auditEventId subscription actor requestId, db => do
      match ← PostgresSubscriptionRepository.update auditEventId subscription actor requestId db with
      | .commit _ db => return .commit () db
      | .rollback _ => return .rollback ()
  | .deleteSubscription id, db => PostgresSubscriptionRepository.delete id db
  | .upsertPreference consumerId preference, db =>
      PostgresDeliveryPreferenceRepository.upsert consumerId preference db

def runCall (env : Env) : (call : Call) → Db → Except Failure call.Res × Db
  | .claimUnpublished eventType limit => transaction env.fault .database
      (PostgresOutboxRepository.claimUnpublished env.now env.tie env.locked eventType limit)
  | .markPublished id => transaction env.fault .database
      (PostgresOutboxRepository.markPublished env.now id)
  | .findAlert id => query env.fault .database (PostgresAlertRepository.findById env.fieldTie id)
  | .listSubscriptions => query env.fault .database fun db =>
      .ok (PostgresSubscriptionRepository.listAll env.tie db)
  | .findPreference consumerId => query env.fault .database fun db =>
      .ok (PostgresDeliveryPreferenceRepository.findByConsumer consumerId db)
  | .createPlannedItem item => transaction env.fault .database
      (PostgresDeliveryRepository.createPlannedItem env.now item)
  | .beginClaim => query env.fault .database fun db =>
      .ok { now := env.now, rows := db.deliveries }
  | .lockAndStart limit snapshot => transaction env.fault .database
      (PostgresDeliveryRepository.claimNext env.tie env.locked env.fresh limit snapshot)
  | .findConsumer id => query env.fault .database fun db =>
      .ok (PostgresConsumerRepository.findById id db)
  | .send _ _ _ _ => fun db => (.ok env.reply, db)
  | .findSentAttempt providerMessageId => query env.fault .database fun db =>
      .ok (PostgresDeliveryRepository.findSentAttempt env.tie providerMessageId db)
  | .findDelivery id => query env.fault .database (PostgresDeliveryRepository.findById id)
  | .findDeliveriesByAlert id => query env.fault .database
      (PostgresDeliveryRepository.findByAlertId env.tie id)
  | .applyTransition delivery transition => transaction env.fault .database
      (PostgresDeliveryRepository.applyTransition env.now delivery transition)
  | .applyAttemptTransition delivery transition => transaction env.fault .database
      (PostgresDeliveryRepository.applyAttemptTransition env.now delivery transition)
  | .recordIfNew channel providerEventId => transaction env.fault .database
      (PostgresWebhookReplayGuard.recordIfNew channel providerEventId)
  | .respond _ _ => fun db => (.ok (), db)
  | .edit edit => transaction env.fault .database (runEdit env edit)

/-- One finished call: who made it, what it answered, when, and the tables it found. -/
structure Entry where
  pid : Nat
  call : Call
  answer : Except Failure call.Res
  time : Timestamp
  before : Db

/-- The tables, the clock, and every call so far with the latest first. -/
structure World where
  db : Db
  clock : Timestamp
  history : List Entry

namespace World

def execute (pid : Nat) (call : Call) (env : Env) (world : World) :
    Except Failure call.Res × World :=
  let (answer, db) := runCall env call world.db
  (answer, { db, clock := env.now, history := ⟨pid, call, answer, env.now, world.db⟩ :: world.history })

@[simp] theorem execute_db (pid : Nat) (call : Call) (env : Env) (world : World) :
    (world.execute pid call env).2.db = (runCall env call world.db).2 := rfl

@[simp] theorem execute_answer (pid : Nat) (call : Call) (env : Env) (world : World) :
    (world.execute pid call env).1 = (runCall env call world.db).1 := rfl

@[simp] theorem execute_clock (pid : Nat) (call : Call) (env : Env) (world : World) :
    (world.execute pid call env).2.clock = env.now := rfl

@[simp] theorem execute_history (pid : Nat) (call : Call) (env : Env) (world : World) :
    (world.execute pid call env).2.history =
      ⟨pid, call, (runCall env call world.db).1, env.now, world.db⟩ :: world.history := rfl

end World

/-- No delivery was planned yet and nothing was announced; the other tables hold anything. -/
structure Db.Initial (db : Db) : Prop where
  deliveries : db.deliveries = []
  deliveryAttempts : db.deliveryAttempts = []
  deliveryEvents : db.deliveryEvents = []
  webhookReplayEvents : db.webhookReplayEvents = []
  outboxEvents : db.outboxEvents = []
  alerts : db.alerts = []
  alertFields : db.alertFields = []

def World.initial (db : Db) : World := { db, clock := 0, history := [] }

@[reducible] def deliveryMachine : Machine deliveryInterface where
  State := World
  Env := Env
  execute := World.execute

end SafeCameroon
