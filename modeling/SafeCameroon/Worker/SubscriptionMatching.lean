import SafeCameroon.Worker.Dispatch

namespace SafeCameroon

open Process

namespace SubscriptionMatching

def alertCreatedEventType : String := "ALERT_CREATED"

def loadPreferences : List ConsumerMatch → Worker (List (ConsumerId × DeliveryPreference))
  | [] => return []
  | consumerMatch :: rest => do
      let preference ← ask (.findPreference consumerMatch.consumerId)
      let preferences ← loadPreferences rest
      match preference with
      | some preference => return (consumerMatch.consumerId, preference) :: preferences
      | none => return preferences

/-- Each delivery and its event are committed on their own before the next one begins. -/
def createPlanned (planned : List PlannedDelivery) : Worker Unit :=
  Proc.forEach (fun item => ask (.createPlannedItem item)) planned

def matchAndPlan (setup : WorkerSetup) (fresh : Supply) (alertId : AlertId) : Worker Unit := do
  match ← ask (.findAlert alertId) with
  | none => return ()
  | some alert =>
      let allSubscriptions ← ask .listSubscriptions
      let decisions := evaluateSubscriptions setup.unicode allSubscriptions alert
      let consumerMatches := deduplicateByConsumer decisions
      if consumerMatches.isEmpty then return ()
      else
        let preferences ← loadPreferences consumerMatches
        let planned := planDeliveries setup.sha256 fresh alert consumerMatches
          (fun consumerId => preferences.lookup consumerId) RetryPolicy.standard .automated
          (fresh.part 0 4)
        createPlanned planned

/-- Claims a batch of events and plans each one's alert before marking the event published. -/
def processBatch (setup : WorkerSetup) (fresh : Supply) (batchSize : Nat) : Worker Nat := do
  let claimed ← ask (.claimUnpublished alertCreatedEventType batchSize)
  Proc.forEach (fun (event, index) => do
    matchAndPlan setup (fresh.part index) ⟨event.aggregateId⟩
    ask (.markPublished event.id)) claimed.zipIdx
  return claimed.length

end SubscriptionMatching

end SafeCameroon
