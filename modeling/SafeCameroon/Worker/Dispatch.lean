import SafeCameroon.Delivery.Calls

namespace SafeCameroon

open Process

/-- Why a worker's cycle ends early: a repository call, or a failed `expect` of its own. -/
inductive WorkerError where
  | repository (failure : Failure)
  | expectation (message : String)
  deriving DecidableEq, Repr

abbrev Worker := Proc deliveryInterface WorkerError

def ask (call : Call) : Worker call.Res := Proc.perform (I := deliveryInterface) call .repository

def demand {α β : Type} (message : String) : Except α β → Worker β
  | .ok value => .done value
  | .error _ => .fail (.expectation message)

/-- What a worker is set up with: its digest, the case mapping of its strings, and the channels that
have an adapter. -/
structure WorkerSetup where
  sha256 : String → Bytes
  unicode : Text.UnicodeData
  registered : ChannelType → Bool

namespace Dispatch

def fail (fresh : Supply) (delivery : Delivery) (operationId : Uuid) (retryable : Bool)
    (reason : String) : Worker Unit := do
  let (delivery, transition) ← demand "a claimed delivery is always Sending"
    (recordDeliveryFailure fresh delivery retryable reason .automated operationId)
  let _ ← ask (.applyAttemptTransition delivery transition)

def dispatchOne (setup : WorkerSetup) (fresh : Supply) (delivery : Delivery) : Worker Unit := do
  let operationId := fresh 4
  if setup.registered delivery.channel then
    match ← ask (.findAlert delivery.alertId) with
    | none => fail fresh delivery operationId false "alert no longer exists"
    | some alert =>
        let consumer ← ask (.findConsumer delivery.consumerId)
        let recipientLocale := consumer.bind (·.locale)
        let message := buildOutboundMessage setup.unicode alert delivery recipientLocale
        match ← ask (.send delivery.id delivery.attemptCount delivery.channel message) with
        | .ok outcome =>
            let (delivery, transition) ← demand "a claimed delivery is always Sending"
              (recordDeliverySuccess fresh delivery outcome.providerMessageId .automated operationId)
            let _ ← ask (.applyAttemptTransition delivery transition)
        | .error error => fail fresh delivery operationId error.retryable error.message
  else
    fail fresh delivery operationId false "no channel registered for this delivery's channel type"

/-- The two halves of `claim_next`: its snapshot, and then the locks and starts it commits. -/
def claimNext (limit : Nat) : Worker (List Delivery) := do
  let snapshot ← ask .beginClaim
  ask (.lockAndStart limit snapshot)

/-- Claims a batch and dispatches it in order; answers with how many deliveries it claimed. -/
def processBatch (setup : WorkerSetup) (fresh : Supply) (batchSize : Nat) : Worker Nat := do
  let claimed ← claimNext batchSize
  Proc.forEach (fun (delivery, index) => dispatchOne setup (fresh.part index) delivery)
    claimed.zipIdx
  return claimed.length

end Dispatch

end SafeCameroon
