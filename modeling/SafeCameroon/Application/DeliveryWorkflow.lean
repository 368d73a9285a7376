import SafeCameroon.Application.CaseWorkflow
import SafeCameroon.Application.Webhook

namespace SafeCameroon

structure PlannedDelivery where
  delivery : Delivery
  event : DeliveryEvent
  idempotencyKeyHash : Bytes
  actor : Actor
  auditEventId : Uuid
  outboxEventId : Uuid
  requestId : Uuid
  deriving DecidableEq

/-- Plans the deliveries of an alert; `sha256` is the digest of the key's UTF-8 bytes. -/
def planDeliveries (sha256 : String → Bytes) (fresh : Supply) (alert : Alert)
    (consumerMatches : List ConsumerMatch) (preferences : ConsumerId → Option DeliveryPreference)
    (retryPolicy : RetryPolicy) (actor : Actor) (requestId : Uuid) : List PlannedDelivery :=
  (planDeliveriesDomain fresh alert consumerMatches preferences retryPolicy).zipIdx.map
    fun ((delivery, event), index) =>
      { delivery, event
        idempotencyKeyHash := sha256 delivery.idempotencyKey
        actor
        auditEventId := fresh.part index 2
        outboxEventId := fresh.part index 3
        requestId }

def deliveryRequestedEventPayload (planned : PlannedDelivery) : Json :=
  .object
    [("delivery_id", .uuid planned.delivery.id.uuid),
     ("alert_id", .uuid planned.delivery.alertId.uuid),
     ("consumer_id", .uuid planned.delivery.consumerId.uuid),
     ("channel", .string planned.delivery.channel.asDatabaseValue),
     ("tier", .natural planned.delivery.tier)]

/-- A transition with an event and no attempt. -/
structure DeliveryTransition where
  event : DeliveryEvent
  actor : Actor
  auditEventId : Uuid
  outboxEventId : Uuid
  requestId : Uuid
  deriving DecidableEq

structure DeliveryAttemptTransition where
  event : DeliveryEvent
  attempt : DeliveryAttempt
  actor : Actor
  auditEventId : Uuid
  outboxEventId : Uuid
  requestId : Uuid
  deriving DecidableEq

def deliveryEventPayload (delivery : Delivery) (event : DeliveryEvent) : Json :=
  .object
    [("delivery_id", .uuid delivery.id.uuid),
     ("alert_id", .uuid delivery.alertId.uuid),
     ("consumer_id", .uuid delivery.consumerId.uuid),
     ("channel", .string delivery.channel.asDatabaseValue),
     ("aggregate_version", .natural event.aggregateVersion)]

def startDeliveryAttempt (fresh : Supply) (delivery : Delivery) (actor : Actor) (requestId : Uuid) :
    Except DeliveryTransitionError (Delivery × DeliveryTransition) := do
  let (delivery, event) ← delivery.startAttempt fresh
  return (delivery, { event, actor, auditEventId := fresh 2, outboxEventId := fresh 3, requestId })

def recordDeliverySuccess (fresh : Supply) (delivery : Delivery)
    (providerMessageId : Option String) (actor : Actor) (requestId : Uuid) :
    Except DeliveryTransitionError (Delivery × DeliveryAttemptTransition) := do
  let (delivery, event, attempt) ← delivery.recordSuccess fresh providerMessageId
  return (delivery,
    { event, attempt, actor, auditEventId := fresh 2, outboxEventId := fresh 3, requestId })

def recordDeliveryDelivered (fresh : Supply) (delivery : Delivery) (actor : Actor)
    (requestId : Uuid) : Except DeliveryTransitionError (Delivery × DeliveryTransition) := do
  let (delivery, event) ← delivery.recordDelivered fresh
  return (delivery, { event, actor, auditEventId := fresh 2, outboxEventId := fresh 3, requestId })

def recordDeliveryFailure (fresh : Supply) (delivery : Delivery) (retryable : Bool)
    (reason : String) (actor : Actor) (requestId : Uuid) :
    Except DeliveryTransitionError (Delivery × DeliveryAttemptTransition) := do
  let (delivery, event, attempt) ← delivery.recordFailure fresh retryable reason
  return (delivery,
    { event, attempt, actor, auditEventId := fresh 2, outboxEventId := fresh 3, requestId })

/-- The two shapes a callback can be applied in, each with its own repository call. -/
inductive WebhookAppliedTransition where
  | delivered (transition : DeliveryTransition)
  | failed (transition : DeliveryAttemptTransition)
  deriving DecidableEq

def applyWebhookEvent (fresh : Supply) (delivery : Delivery) (event : WebhookEvent) (actor : Actor)
    (requestId : Uuid) : Except DeliveryTransitionError (Delivery × WebhookAppliedTransition) :=
  match event.status with
  | .delivered => do
      let (delivery, transition) ← recordDeliveryDelivered fresh delivery actor requestId
      return (delivery, .delivered transition)
  | .failed retryable reason => do
      let (delivery, transition) ←
        recordDeliveryFailure fresh delivery retryable reason actor requestId
      return (delivery, .failed transition)

def deliveryTransitionEventPayload (delivery : Delivery) (transition : DeliveryTransition) : Json :=
  deliveryEventPayload delivery transition.event

def deliveryAttemptEventPayload (delivery : Delivery) (transition : DeliveryAttemptTransition) :
    Json :=
  deliveryEventPayload delivery transition.event

end SafeCameroon
