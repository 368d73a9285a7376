import SafeCameroon.Api.Reports
import SafeCameroon.Postgres.Reviewers

namespace SafeCameroon.Access

open Table Process

/-- The calls between which requests about accounts, organizations and subscriptions can be
interleaved. What they call in common with requests about reports, cases and alerts is among the
calls of those. -/
inductive Call where
  | incident (call : Incidents.Call)
  | countReviewers
  | createReviewer (id : Uuid) (email : String)
  | findReviewerByEmail (email : String)
  | recordReviewerAudit (auditEventId : Uuid) (actor : Actor) (action : String)
      (resourceId : Option Uuid) (requestId : Uuid)
  | addMembership (reviewerId : Uuid) (role : Role) (organizationId : Option OrganizationId)
  | createOrganization (id : OrganizationId)
  | setActive (id : OrganizationId) (isActive : Bool)
  | setConsumerId (id : OrganizationId) (consumerId : ConsumerId)
  | findOrganizationIdByConsumerId (id : ConsumerId)
  | createConsumer (consumer : Consumer)
  | createConsumerWithManagementToken (consumer : Consumer) (managementTokenHash : Bytes)
  | managementTokenHash (id : ConsumerId)
  | createSubscription (subscription : Subscription)
  | findSubscription (id : SubscriptionId)
  | listAllSubscriptions (limit offset : Nat)
  | updateSubscription (auditEventId : Uuid) (subscription : Subscription) (actor : Actor)
      (requestId : Uuid)
  | deleteSubscription (id : SubscriptionId)
  | upsertDeliveryPreference (consumerId : ConsumerId) (preference : DeliveryPreference)
  | findDeliveryPreference (consumerId : ConsumerId)
  | listAlerts (filter : AlertFilter) (limit offset : Nat)
  | recordAlertViewed (auditEventId actorId : Uuid) (resourceId : Option Uuid) (requestId : Uuid)

@[reducible] def Call.Res : Call → Type
  | .incident call => call.Res
  | .countReviewers => Nat
  | .createReviewer _ _ => CreateReviewerOutcome
  | .findReviewerByEmail _ => Option Uuid
  | .recordReviewerAudit _ _ _ _ _ => Unit
  | .addMembership _ _ _ => Unit
  | .createOrganization _ => Unit
  | .setActive _ _ => Unit
  | .setConsumerId _ _ => Unit
  | .findOrganizationIdByConsumerId _ => Option OrganizationId
  | .createConsumer _ => Unit
  | .createConsumerWithManagementToken _ _ => Unit
  | .managementTokenHash _ => Option Bytes
  | .createSubscription _ => Unit
  | .findSubscription _ => Option Subscription
  | .listAllSubscriptions _ _ => List Subscription
  | .updateSubscription _ _ _ _ => Bool
  | .deleteSubscription _ => Unit
  | .upsertDeliveryPreference _ _ => Unit
  | .findDeliveryPreference _ => Option DeliveryPreference
  | .listAlerts _ _ _ => List Alert
  | .recordAlertViewed _ _ _ _ => Unit

@[reducible] def accessInterface : Interface := { Op := Call, Res := Call.Res, Err := Failure }

abbrev Env := Incidents.Env

/-- A transaction that touches only the tables that the registry shares with the rest. -/
def inTables {α : Type} (body : Db → Except Failure (Ending Db α)) (registry : Registry) :
    Except Failure (Ending Registry α) :=
  (body registry.tables).map (Ending.map (fun tables => { registry with tables }) id)

def addMembership (reviewerId : Uuid) (role : Role) (organizationId : Option OrganizationId)
    (registry : Registry) : Except Failure (Ending Registry Unit) :=
  if reviewerId ∉ registry.reviewers.map (·.id) then .error .database
  else inTables (PostgresOrganizationRepository.addMembership reviewerId role organizationId) registry

def runCall (lower : PostgresReviewerRepository.Lower) (env : Env) :
    (call : Call) → Registry → Except Failure call.Res × Registry
  | .incident call, registry =>
      let (answer, tables) := Incidents.runCall env call registry.tables
      (answer, { registry with tables })
  | .countReviewers, registry => query env.fault .database
      (fun registry => .ok (PostgresReviewerRepository.count registry)) registry
  | .createReviewer id email, registry => transaction env.fault .database
      (PostgresReviewerRepository.create lower id email) registry
  | .findReviewerByEmail email, registry => query env.fault .database
      (fun registry => .ok (PostgresReviewerRepository.findByEmail lower email registry)) registry
  | .recordReviewerAudit auditEventId actor action resourceId requestId, registry =>
      transaction env.fault .database (inTables (PostgresReviewerRepository.recordAuditEvent
        auditEventId actor action resourceId requestId)) registry
  | .addMembership reviewerId role organizationId, registry => transaction env.fault .database
      (addMembership reviewerId role organizationId) registry
  | .createOrganization id, registry => transaction env.fault .database
      (inTables (PostgresOrganizationRepository.create id)) registry
  | .setActive id isActive, registry => transaction env.fault .database
      (inTables (PostgresOrganizationRepository.setActive id isActive)) registry
  | .setConsumerId id consumerId, registry => transaction env.fault .database
      (inTables (PostgresOrganizationRepository.setConsumerId id consumerId)) registry
  | .findOrganizationIdByConsumerId id, registry => query env.fault .database
      (fun registry => .ok (PostgresOrganizationRepository.findOrganizationIdByConsumerId id
        registry.tables)) registry
  | .createConsumer consumer, registry => transaction env.fault .database
      (inTables (PostgresConsumerRepository.create
        { id := consumer.id, locale := consumer.locale })) registry
  | .createConsumerWithManagementToken consumer managementTokenHash, registry =>
      transaction env.fault .database
        (PostgresConsumerRepository.createWithManagementToken consumer managementTokenHash) registry
  | .managementTokenHash id, registry => query env.fault .database
      (fun registry => .ok (PostgresConsumerRepository.managementTokenHash id registry)) registry
  | .createSubscription subscription, registry => transaction env.fault .database
      (inTables (PostgresSubscriptionRepository.create env.now subscription)) registry
  | .findSubscription id, registry => query env.fault .database
      (fun registry => .ok (PostgresSubscriptionRepository.findById id registry.tables)) registry
  | .listAllSubscriptions limit offset, registry => query env.fault .database
      (fun registry => .ok (PostgresSubscriptionRepository.listAllPage env.tie limit offset
        registry.tables)) registry
  | .updateSubscription auditEventId subscription actor requestId, registry =>
      transaction env.fault .database (inTables (PostgresSubscriptionRepository.update auditEventId
        subscription actor requestId)) registry
  | .deleteSubscription id, registry => transaction env.fault .database
      (inTables (PostgresSubscriptionRepository.delete id)) registry
  | .upsertDeliveryPreference consumerId preference, registry => transaction env.fault .database
      (inTables (PostgresDeliveryPreferenceRepository.upsert consumerId preference)) registry
  | .findDeliveryPreference consumerId, registry => query env.fault .database
      (fun registry => .ok (PostgresDeliveryPreferenceRepository.findByConsumer consumerId
        registry.tables)) registry
  | .listAlerts filter limit offset, registry => query env.fault .database
      (PostgresAlertRepository.list env.fieldTie filter limit offset) registry
  | .recordAlertViewed auditEventId actorId resourceId requestId, registry =>
      transaction env.fault .database (inTables fun db =>
        PostgresAuditEventRepository.record auditEventId actorId
          (organizationIdForActor (some actorId) db) "ALERT_VIEWED" "ALERT" resourceId requestId db)
        registry

/-- One finished call: who made it, what it answered, and the registry it found. -/
structure Entry where
  pid : Nat
  call : Call
  answer : Except Failure call.Res
  before : Registry

/-- The registry, and every call so far with the latest first. -/
structure World where
  registry : Registry
  history : List Entry

variable (lower : PostgresReviewerRepository.Lower)

namespace World

def execute (pid : Nat) (call : Call) (env : Env) (world : World) :
    Except Failure call.Res × World :=
  let (answer, registry) := runCall lower env call world.registry
  (answer, { registry, history := ⟨pid, call, answer, world.registry⟩ :: world.history })

@[simp] theorem execute_registry (pid : Nat) (call : Call) (env : Env) (world : World) :
    (world.execute lower pid call env).2.registry = (runCall lower env call world.registry).2 := rfl

@[simp] theorem execute_answer (pid : Nat) (call : Call) (env : Env) (world : World) :
    (world.execute lower pid call env).1 = (runCall lower env call world.registry).1 := rfl

@[simp] theorem execute_history (pid : Nat) (call : Call) (env : Env) (world : World) :
    (world.execute lower pid call env).2.history =
      ⟨pid, call, (runCall lower env call world.registry).1, world.registry⟩ :: world.history := rfl

def initial (registry : Registry) : World := { registry, history := [] }

def trace (pid : Nat) (world : World) : List (Exchange accessInterface) :=
  (world.history.filter fun entry => entry.pid = pid).map fun entry => ⟨entry.call, entry.answer⟩

end World

@[reducible] def accessMachine : Machine accessInterface where
  State := World
  Env := Env
  execute := World.execute lower

def recorded : Process.Recorded (accessMachine lower) where
  trace := World.trace
  own := fun pid call env world => by simp [World.trace]
  other := fun pid other call env world differs => by simp [World.trace, Ne.symm differs]

theorem World.mem_trace (pid : Nat) (world : World) (call : Call)
    (answer : Except Failure call.Res) (h : ⟨call, answer⟩ ∈ world.trace pid) :
    ∃ before, (⟨pid, call, answer, before⟩ : Entry) ∈ world.history := by
  obtain ⟨⟨other, made, result, before⟩, member, same⟩ := List.mem_map.mp h
  obtain ⟨inHistory, owned⟩ := List.mem_filter.mp member
  obtain rfl : other = pid := by simpa using owned
  obtain ⟨rfl, equal⟩ := Exchange.mk.inj same
  obtain rfl := eq_of_heq equal
  exact ⟨before, inHistory⟩

abbrev Handler := Proc accessInterface HandlerError

def lift {α : Type} (handler : Incidents.Handler α) : Handler α :=
  handler.embed Call.incident fun _ answer => answer

/-- A repository call whose error becomes the given response; a panic answers nothing. -/
def orFail (error : ApiError) (call : Call) : Handler call.Res :=
  Proc.perform (I := accessInterface) call fun
    | .database => .api error
    | .panic message => .panicked message

def refuse {α : Type} (error : ApiError) : Handler α := .fail (.api error)

end SafeCameroon.Access
