import SafeCameroon.Domain.Subscription
import Mathlib.Data.List.Nodup

namespace SafeCameroon

open Text

inductive ChannelType where
  | whatsApp
  | sms
  | email
  | push
  deriving DecidableEq, Repr

namespace ChannelType

def asDatabaseValue : ChannelType → String
  | .whatsApp => "WHATSAPP"
  | .sms => "SMS"
  | .email => "EMAIL"
  | .push => "PUSH"

def fromDatabaseValue (value : String) : Option ChannelType :=
  if value = "WHATSAPP" then some .whatsApp
  else if value = "SMS" then some .sms
  else if value = "EMAIL" then some .email
  else if value = "PUSH" then some .push
  else none

@[simp] theorem from_as (channel : ChannelType) :
    fromDatabaseValue channel.asDatabaseValue = some channel := by
  cases channel <;> decide

end ChannelType

/-- An address is never blank and carries no surrounding white space. -/
structure ChannelEndpoint where
  channel : ChannelType
  address : String
  trimmed : trim address = address
  nonblank : address ≠ ""

theorem ChannelEndpoint.place_iff (first second : ChannelEndpoint) :
    first.channel = second.channel ∧ first.address = second.address ↔ first = second := by
  cases first
  cases second
  simp

instance : DecidableEq ChannelEndpoint := fun first second =>
  decidable_of_iff _ (ChannelEndpoint.place_iff first second)

structure EmptyChannelEndpointAddress where
  deriving DecidableEq, Repr

def ChannelEndpoint.new (channel : ChannelType) (address : String) :
    Except EmptyChannelEndpointAddress ChannelEndpoint :=
  if blank : trim address = "" then .error {}
  else .ok { channel, address := trim address, trimmed := trim_trim address, nonblank := blank }

inductive DeliveryStrategy where
  | all
  | primaryFallback
  | priorityList
  deriving DecidableEq, Repr

namespace DeliveryStrategy

def asDatabaseValue : DeliveryStrategy → String
  | .all => "ALL"
  | .primaryFallback => "PRIMARY_FALLBACK"
  | .priorityList => "PRIORITY_LIST"

def fromDatabaseValue (value : String) : Option DeliveryStrategy :=
  if value = "ALL" then some .all
  else if value = "PRIMARY_FALLBACK" then some .primaryFallback
  else if value = "PRIORITY_LIST" then some .priorityList
  else none

@[simp] theorem from_as (strategy : DeliveryStrategy) :
    fromDatabaseValue strategy.asDatabaseValue = some strategy := by
  cases strategy <;> decide

end DeliveryStrategy

inductive DeliveryPreferenceError where
  | emptyChannelList
  | duplicateChannel (channel : ChannelType)
  deriving DecidableEq, Repr

/-- At least one endpoint, and no channel twice. -/
structure DeliveryPreference where
  strategy : DeliveryStrategy
  channels : List ChannelEndpoint
  nonempty : channels ≠ []
  distinct : (channels.map (·.channel)).Nodup
  deriving DecidableEq

def firstDuplicate (seen : List ChannelType) : List ChannelEndpoint → Option ChannelType
  | [] => none
  | endpoint :: rest =>
      if endpoint.channel ∈ seen then some endpoint.channel
      else firstDuplicate (seen ++ [endpoint.channel]) rest

theorem firstDuplicate_none (seen : List ChannelType) (channels : List ChannelEndpoint)
    (fresh : seen.Nodup) (h : firstDuplicate seen channels = none) :
    (seen ++ channels.map (·.channel)).Nodup := by
  induction channels generalizing seen with
  | nil => simpa using fresh
  | cons endpoint rest ih =>
      by_cases member : endpoint.channel ∈ seen
      · simp [firstDuplicate, member] at h
      · simp only [firstDuplicate, member, if_false] at h
        have longer : (seen ++ [endpoint.channel]).Nodup := by
          rw [List.nodup_append]
          refine ⟨fresh, List.nodup_singleton _, ?_⟩
          intro earlier inSeen last same
          rw [List.mem_singleton.mp same]
          exact fun equal => member (equal ▸ inSeen)
        simpa using ih _ longer h

namespace DeliveryPreference

def new (strategy : DeliveryStrategy) (channels : List ChannelEndpoint) :
    Except DeliveryPreferenceError DeliveryPreference :=
  if empty : channels = [] then .error .emptyChannelList
  else match duplicate : firstDuplicate [] channels with
    | some channel => .error (.duplicateChannel channel)
    | none => .ok
        { strategy, channels, nonempty := empty
          distinct := by simpa using firstDuplicate_none [] channels List.nodup_nil duplicate }

/-- Each endpoint with its fallback tier; the cast to `u8` keeps the index modulo 256. -/
def tiers (preference : DeliveryPreference) : List (Nat × ChannelEndpoint) :=
  preference.channels.zipIdx.map fun (endpoint, index) =>
    (match preference.strategy with
      | .all => 0
      | .primaryFallback | .priorityList => index % 256, endpoint)

end DeliveryPreference

def DeliveryIdempotencyKey.new (consumerId : ConsumerId) (alertId : AlertId) (channel : ChannelType)
    (endpointAddress : String) : String :=
  consumerId.uuid.display ++ ":" ++ alertId.uuid.display ++ ":" ++ channel.asDatabaseValue ++ ":" ++
    endpointAddress

/-- How many attempts a delivery may make in all: a positive `u32`. -/
structure RetryPolicy where
  maxAttempts : Nat
  positive : 0 < maxAttempts
  bounded : maxAttempts < 2 ^ 32
  deriving DecidableEq

structure InvalidRetryPolicy where
  deriving DecidableEq, Repr

namespace RetryPolicy

def new (maxAttempts : Nat) (bounded : maxAttempts < 2 ^ 32) :
    Except InvalidRetryPolicy RetryPolicy :=
  if zero : maxAttempts = 0 then .error {}
  else .ok { maxAttempts, positive := Nat.pos_of_ne_zero zero, bounded }

def standard : RetryPolicy := { maxAttempts := 5, positive := by decide, bounded := by decide }

/-- The seconds to wait after an attempt: doubling from 30, at most half an hour. -/
def backoffAfterAttempt (attemptCount : Nat) : Nat :=
  let exponent := min (attemptCount - 1) 6
  let multiplier := 2 ^ exponent
  min (30 * multiplier) (30 * 60)

end RetryPolicy

inductive DeliveryStatus where
  | queued
  | sending
  | sent
  | delivered
  | retrying
  | failedPermanently
  deriving DecidableEq, Repr

namespace DeliveryStatus

def asDatabaseValue : DeliveryStatus → String
  | .queued => "QUEUED"
  | .sending => "SENDING"
  | .sent => "SENT"
  | .delivered => "DELIVERED"
  | .retrying => "RETRYING"
  | .failedPermanently => "FAILED_PERMANENTLY"

def fromDatabaseValue (value : String) : Option DeliveryStatus :=
  if value = "QUEUED" then some .queued
  else if value = "SENDING" then some .sending
  else if value = "SENT" then some .sent
  else if value = "DELIVERED" then some .delivered
  else if value = "RETRYING" then some .retrying
  else if value = "FAILED_PERMANENTLY" then some .failedPermanently
  else none

@[simp] theorem from_as (status : DeliveryStatus) :
    fromDatabaseValue status.asDatabaseValue = some status := by
  cases status <;> decide

end DeliveryStatus

structure DeliveryTransitionError where
  before : DeliveryStatus
  after : DeliveryStatus
  deriving DecidableEq, Repr

inductive DeliveryEventType where
  | deliveryRequested
  | deliveryStarted
  | deliverySent
  | deliveryDelivered
  | deliveryFailed
  | deliveryRetried
  deriving DecidableEq, Repr

def DeliveryEventType.asDatabaseValue : DeliveryEventType → String
  | .deliveryRequested => "DELIVERY_REQUESTED"
  | .deliveryStarted => "DELIVERY_STARTED"
  | .deliverySent => "DELIVERY_SENT"
  | .deliveryDelivered => "DELIVERY_DELIVERED"
  | .deliveryFailed => "DELIVERY_FAILED"
  | .deliveryRetried => "DELIVERY_RETRIED"

structure DeliveryEvent where
  id : Uuid
  deliveryId : DeliveryId
  eventType : DeliveryEventType
  aggregateVersion : Nat
  deriving DecidableEq, Repr

inductive DeliveryAttemptOutcome where
  | sent (providerMessageId : Option String)
  | failed (retryable : Bool) (reason : String)
  deriving DecidableEq, Repr

structure DeliveryAttempt where
  id : Uuid
  deliveryId : DeliveryId
  attemptNumber : Nat
  outcome : DeliveryAttemptOutcome
  deriving DecidableEq, Repr

structure Delivery where
  id : DeliveryId
  alertId : AlertId
  consumerId : ConsumerId
  channel : ChannelType
  endpointAddress : String
  tier : Nat
  matchingSubscriptions : List MatchedSubscription
  retryPolicy : RetryPolicy
  status : DeliveryStatus
  attemptCount : Nat
  version : Nat
  deriving DecidableEq

namespace Delivery

/-- Both constructors of the source fill their key field with this value. -/
def idempotencyKey (delivery : Delivery) : String :=
  DeliveryIdempotencyKey.new delivery.consumerId delivery.alertId delivery.channel
    delivery.endpointAddress

def event (delivery : Delivery) (id : Uuid) (eventType : DeliveryEventType) : DeliveryEvent :=
  { id, deliveryId := delivery.id, eventType, aggregateVersion := delivery.version }

def planOne (fresh : Supply) (alertId : AlertId) (consumerId : ConsumerId)
    (endpoint : ChannelEndpoint) (tier : Nat) (matchingSubscriptions : List MatchedSubscription)
    (retryPolicy : RetryPolicy) : Delivery × DeliveryEvent :=
  let delivery : Delivery :=
    { id := ⟨fresh 0⟩, alertId, consumerId
      channel := endpoint.channel, endpointAddress := endpoint.address
      tier, matchingSubscriptions, retryPolicy
      status := .queued, attemptCount := 0, version := 1 }
  (delivery, delivery.event (fresh 1) .deliveryRequested)

/-- The wait before a retry; a delivery in any other status waits for nothing. -/
def retryBackoff (delivery : Delivery) : Option Nat :=
  if delivery.status = .retrying then
    some (RetryPolicy.backoffAfterAttempt delivery.attemptCount)
  else none

def startAttempt (fresh : Supply) (delivery : Delivery) :
    Except DeliveryTransitionError (Delivery × DeliveryEvent) :=
  if delivery.status = .queued ∨ delivery.status = .retrying then
    let delivery := { delivery with
      status := .sending
      attemptCount := delivery.attemptCount + 1
      version := delivery.version + 1 }
    .ok (delivery, delivery.event (fresh 0) .deliveryStarted)
  else .error { before := delivery.status, after := .sending }

def recordSuccess (fresh : Supply) (providerMessageId : Option String) (delivery : Delivery) :
    Except DeliveryTransitionError (Delivery × DeliveryEvent × DeliveryAttempt) :=
  if delivery.status = .sending then
    let delivery := { delivery with status := .sent, version := delivery.version + 1 }
    let attempt : DeliveryAttempt :=
      { id := fresh 1, deliveryId := delivery.id, attemptNumber := delivery.attemptCount
        outcome := .sent providerMessageId }
    .ok (delivery, delivery.event (fresh 0) .deliverySent, attempt)
  else .error { before := delivery.status, after := .sent }

def recordDelivered (fresh : Supply) (delivery : Delivery) :
    Except DeliveryTransitionError (Delivery × DeliveryEvent) :=
  if delivery.status = .sent then
    let delivery := { delivery with status := .delivered, version := delivery.version + 1 }
    .ok (delivery, delivery.event (fresh 0) .deliveryDelivered)
  else .error { before := delivery.status, after := .delivered }

def recordFailure (fresh : Supply) (retryable : Bool) (reason : String) (delivery : Delivery) :
    Except DeliveryTransitionError (Delivery × DeliveryEvent × DeliveryAttempt) :=
  if delivery.status = .sending then
    let willRetry := retryable && decide (delivery.attemptCount < delivery.retryPolicy.maxAttempts)
    let delivery := { delivery with
      status := if willRetry then .retrying else .failedPermanently
      version := delivery.version + 1 }
    let attempt : DeliveryAttempt :=
      { id := fresh 1, deliveryId := delivery.id, attemptNumber := delivery.attemptCount
        outcome := .failed retryable reason }
    let eventType := if willRetry then .deliveryRetried else .deliveryFailed
    .ok (delivery, delivery.event (fresh 0) eventType, attempt)
  else .error { before := delivery.status, after := .failedPermanently }

end Delivery

/-- What planning will make a delivery of: a consumer, one of its endpoints and the tier. -/
structure PlanTarget where
  consumerMatch : ConsumerMatch
  tier : Nat
  endpoint : ChannelEndpoint

def planTargets (consumerMatches : List ConsumerMatch)
    (preferences : ConsumerId → Option DeliveryPreference) : List PlanTarget :=
  consumerMatches.flatMap fun consumerMatch =>
    match preferences consumerMatch.consumerId with
    | none => []
    | some preference => preference.tiers.map fun (tier, endpoint) =>
        { consumerMatch, tier, endpoint }

def planDeliveriesDomain (fresh : Supply) (alert : Alert) (consumerMatches : List ConsumerMatch)
    (preferences : ConsumerId → Option DeliveryPreference) (retryPolicy : RetryPolicy) :
    List (Delivery × DeliveryEvent) :=
  (planTargets consumerMatches preferences).zipIdx.map fun (target, index) =>
    Delivery.planOne (fresh.part index) alert.id target.consumerMatch.consumerId target.endpoint
      target.tier target.consumerMatch.matchingSubscriptions retryPolicy

end SafeCameroon
