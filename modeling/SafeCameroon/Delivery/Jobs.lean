import SafeCameroon.Api.Webhooks
import SafeCameroon.Delivery.Writers
import SafeCameroon.Worker.SubscriptionMatching

namespace SafeCameroon

open Process Proc

/-- What the processes around the delivery tables do. A cycle of a worker is a matching batch and then
a dispatch batch, each a process of its own here, and every request is one. -/
inductive Job where
  | matching (fresh : Supply) (batchSize : Nat)
  | dispatch (fresh : Supply) (batchSize : Nat)
  | webhook (fresh : Supply) (request : WebhookRequest)
  | edit (edit : Edit)

inductive JobError where
  | worker (error : WorkerError)
  | handler (error : HandlerError)
  | edit (failure : Failure)
  deriving DecidableEq, Repr

structure Deployment where
  setup : WorkerSetup
  registry : WebhookVerifierRegistry

namespace Deployment

def run (deployment : Deployment) : Job → Proc deliveryInterface JobError Unit
  | .matching fresh batchSize =>
      ((SubscriptionMatching.processBatch deployment.setup fresh batchSize).bind
        fun _ => .done ()).mapError .worker
  | .dispatch fresh batchSize =>
      ((Dispatch.processBatch deployment.setup fresh batchSize).bind
        fun _ => .done ()).mapError .worker
  | .webhook fresh request =>
      (Webhooks.serve deployment.registry fresh request).mapError .handler
  | .edit edit => Proc.perform (I := deliveryInterface) (.edit edit) .edit

end Deployment

def clockRules : Rules deliveryMachine where
  mayCall := fun _ _ env world => world.clock ≤ env.now
  mayHalt := fun _ _ _ => True

abbrev Pool := Config deliveryMachine JobError Unit

/-- Workers, callback handlers and other requests, one program for each process. -/
abbrev Deployment.pool (deployment : Deployment) (jobs : Nat → Job) :
    Nat → Proc deliveryInterface JobError Unit := fun pid => deployment.run (jobs pid)

abbrev Deployment.Reaches (deployment : Deployment) (jobs : Nat → Job)
    (rules : Rules deliveryMachine) (init : Db) : Pool → Prop :=
  Reach rules (deployment.pool jobs) (initially (World.initial init))

def Call.Takes : Call → Prop
  | .claimUnpublished _ _ => True
  | _ => False

/-- The calls of a matching worker that has taken its events. -/
def Call.Plans : Call → Prop
  | .findAlert _ | .listSubscriptions | .findPreference _ | .createPlannedItem _
  | .markPublished _ => True
  | _ => False

def Call.Dispatches : Call → Prop
  | .beginClaim | .lockAndStart _ _ | .findAlert _ | .findConsumer _ | .send _ _ _ _
  | .applyAttemptTransition _ _ => True
  | _ => False

/-- The calls for a callback of a provider. -/
def Call.Serves : Call → Prop
  | .recordIfNew _ _ | .findSentAttempt _ | .findDelivery _ | .applyTransition _ _
  | .applyAttemptTransition _ _ | .respond _ _ => True
  | _ => False

section Calls

theorem uses_ask (allowed : Call → Prop) (call : Call) (permitted : allowed call) :
    (ask call).Uses allowed := uses_perform _ _ _ permitted

theorem uses_demand (allowed : Call → Prop) {α β : Type} (message : String)
    (result : Except α β) : (demand message result).Uses allowed := by
  cases result <;> trivial

variable (setup : WorkerSetup) (fresh : Supply)

theorem loadPreferences_calls (matched : List ConsumerMatch) :
    (SubscriptionMatching.loadPreferences matched).Uses Call.Plans := by
  induction matched with
  | nil => trivial
  | cons head tail ih =>
      refine uses_bind _ _ _ (uses_ask _ _ trivial) fun preference => ?_
      refine uses_bind _ _ _ ih fun preferences => ?_
      cases preference <;> trivial

theorem matchAndPlan_calls (alertId : AlertId) :
    (SubscriptionMatching.matchAndPlan setup fresh alertId).Uses Call.Plans := by
  refine uses_bind _ _ _ (uses_ask _ _ trivial) fun found => ?_
  cases found with
  | none => trivial
  | some alert =>
      refine uses_bind _ _ _ (uses_ask _ _ trivial) fun subscriptions => ?_
      dsimp only
      split
      · trivial
      · refine uses_bind _ _ _ (loadPreferences_calls _) fun preferences => ?_
        exact uses_forEach _ _ _ fun _ _ => uses_ask _ _ trivial

theorem matching_calls (batchSize : Nat) :
    (SubscriptionMatching.processBatch setup fresh batchSize).Uses
      fun call : Call => call.Takes ∨ call.Plans := by
  refine uses_bind _ _ _ (uses_ask _ _ (Or.inl trivial)) fun events => ?_
  refine uses_bind _ _ _ (uses_forEach _ _ _ fun element _ => ?_) fun _ => trivial
  exact uses_bind _ _ _ (uses_mono (fun _ => Or.inr) _ (matchAndPlan_calls _ _ _))
    fun _ => uses_ask _ _ (Or.inr trivial)

theorem fail_calls (delivery : Delivery) (operationId : Uuid) (retryable : Bool)
    (reason : String) :
    (Dispatch.fail fresh delivery operationId retryable reason).Uses Call.Dispatches := by
  refine uses_bind _ _ _ (uses_demand _ _ _) fun recorded => ?_
  exact uses_bind _ _ _ (uses_ask _ _ trivial) fun _ => trivial

theorem dispatch_calls (batchSize : Nat) :
    (Dispatch.processBatch setup fresh batchSize).Uses Call.Dispatches := by
  refine uses_bind _ _ _ (uses_bind _ _ _ (uses_ask _ _ trivial)
    fun _ => uses_ask _ _ trivial) fun claimed => ?_
  refine uses_bind _ _ _ (uses_forEach _ _ _ fun element _ => ?_) fun _ => trivial
  dsimp only
  unfold Dispatch.dispatchOne
  split
  · refine uses_bind _ _ _ (uses_ask _ _ trivial) fun found => ?_
    cases found with
    | none => exact fail_calls _ _ _ _ _
    | some alert =>
        refine uses_bind _ _ _ (uses_ask _ _ trivial) fun consumer => ?_
        refine uses_bind _ _ _ (uses_ask _ _ trivial) fun reply => ?_
        cases reply with
        | error error => exact fail_calls _ _ _ _ _
        | ok outcome =>
            refine uses_bind _ _ _ (uses_demand _ _ _) fun recorded => ?_
            exact uses_bind _ _ _ (uses_ask _ _ trivial) fun _ => trivial
  · exact fail_calls _ _ _ _ _

theorem applyVerified_calls (requestId : Uuid) (channel : ChannelType) (event : WebhookEvent) :
    (Webhooks.applyVerified fresh requestId channel event).Uses Call.Serves := by
  have persists : ∀ call : Call, call.Serves →
      (Webhooks.persist requestId call).Uses Call.Serves :=
    fun call allowed => uses_perform _ _ _ allowed
  refine uses_bind _ _ _ (persists _ trivial) fun isNew => ?_
  cases isNew with
  | false => trivial
  | true =>
      refine uses_bind _ _ _ ?_ fun found => ?_
      · refine uses_bind _ _ _ (persists _ trivial) fun attempted => ?_
        cases attempted with
        | none => trivial
        | some id => exact persists _ trivial
      · cases found with
        | none => trivial
        | some delivery =>
            dsimp only
            split
            · trivial
            · exact uses_bind _ _ _ (persists _ trivial) fun _ => trivial
            · exact uses_bind _ _ _ (persists _ trivial) fun _ => trivial

theorem serve_calls (registry : WebhookVerifierRegistry) (request : WebhookRequest) :
    (Webhooks.serve registry fresh request).Uses Call.Serves := by
  have handles : (Webhooks.receiveWebhook registry fresh request).Uses Call.Serves := by
    unfold Webhooks.receiveWebhook
    dsimp only
    split
    · trivial
    · exact applyVerified_calls _ _ _ _
  refine uses_bind _ _ _ (uses_attempt _ _ handles) fun result => ?_
  have responds : ∀ status, (Proc.perform (I := deliveryInterface)
      (.respond (Webhooks.callback registry fresh request) status) fun _ =>
        HandlerError.panicked "the response could not be sent").Uses Call.Serves :=
    fun status => uses_perform _ _ _ trivial
  cases result with
  | ok status => exact responds status
  | error error =>
      cases error with
      | api error => exact responds error.status
      | panicked message => trivial

end Calls

end SafeCameroon
