import SafeCameroon.Api.Auth

namespace SafeCameroon.Access.Subscriptions

open Process Text

def persistenceFailed (requestId : Uuid) : ApiError :=
  { status := 500, code := "SUBSCRIPTION_PERSISTENCE_FAILED"
    message := "The request could not be saved. Please try again.", requestId }

def notAuthorized (requestId : Uuid) : ApiError :=
  { status := 403, code := "NOT_AUTHORIZED"
    message := "Only an identified reviewer may manage subscriptions.", requestId }

def notAuthorizedForConsumer (requestId : Uuid) : ApiError :=
  { status := 403, code := "NOT_AUTHORIZED"
    message := "You may not manage this organization's notification settings.", requestId }

def invalidSeverityOperator (requestId : Uuid) : ApiError :=
  { status := 400, code := "INVALID_SEVERITY_OPERATOR"
    message := "operator must be one of GREATER_THAN, GREATER_THAN_OR_EQUAL, EQUAL, " ++
      "LESS_THAN_OR_EQUAL, LESS_THAN."
    requestId }

def invalidGeographyArea (requestId : Uuid) : ApiError :=
  { status := 400, code := "INVALID_GEOGRAPHY_AREA", message := "each area must be non-blank."
    requestId }

def noGeographyArea (requestId : Uuid) : ApiError :=
  { status := 400, code := "INVALID_GEOGRAPHY_AREA"
    message := "areas must contain at least one area.", requestId }

def emptySubscriptionRules (requestId : Uuid) : ApiError :=
  { status := 400, code := "EMPTY_SUBSCRIPTION_RULES"
    message := "rules must contain at least one rule.", requestId }

def subscriptionNotFound (requestId : Uuid) : ApiError :=
  { status := 404, code := "SUBSCRIPTION_NOT_FOUND"
    message := "No subscription exists with the given id.", requestId }

def subscriptionModifiedConcurrently (requestId : Uuid) : ApiError :=
  { status := 409, code := "SUBSCRIPTION_MODIFIED_CONCURRENTLY"
    message := "The subscription changed since it was last read. Reload and retry.", requestId }

def invalidDeliveryStrategy (requestId : Uuid) : ApiError :=
  { status := 400, code := "INVALID_DELIVERY_STRATEGY"
    message := "strategy must be one of ALL, PRIMARY_FALLBACK, PRIORITY_LIST.", requestId }

def invalidChannel (requestId : Uuid) : ApiError :=
  { status := 400, code := "INVALID_CHANNEL"
    message := "channel must be one of WHATSAPP, SMS, EMAIL.", requestId }

def invalidChannelEndpointAddress (requestId : Uuid) : ApiError :=
  { status := 400, code := "INVALID_CHANNEL_ENDPOINT_ADDRESS", message := "address cannot be blank."
    requestId }

def deliveryPreferenceError (requestId : Uuid) : DeliveryPreferenceError → ApiError
  | .emptyChannelList =>
      { status := 400, code := "EMPTY_DELIVERY_CHANNELS"
        message := "channels must contain at least one channel.", requestId }
  | .duplicateChannel _ =>
      { status := 400, code := "DUPLICATE_DELIVERY_CHANNEL"
        message := "each channel may be listed at most once.", requestId }

def deliveryPreferenceNotFound (requestId : Uuid) : ApiError :=
  { status := 404, code := "DELIVERY_PREFERENCE_NOT_FOUND"
    message := "No delivery preference is set for this consumer.", requestId }

/-- Nobody but a platform admin acts for an organization that is inactive. -/
def checkOwner (membership : Membership) (owner : Option OrganizationId) (requestId : Uuid) :
    Handler Unit :=
  match owner with
  | none => return ()
  | some owner => do
      let organization ← findOrganization (persistenceFailed requestId) owner
      let isActive := (organization.map (·.isActive)).getD true
      if isActive = false ∧ membership.role ≠ .platformAdmin then
        refuse (notAuthorizedForConsumer requestId)
      else return ()

def authorizeConsumerAccess (actor : Actor) (consumerId : ConsumerId) (requestId : Uuid) :
    Handler Unit :=
  match actor with
  | .automated => refuse (notAuthorized requestId)
  | .reviewer reviewerId => do
      let membership ← findMembership (persistenceFailed requestId) reviewerId
      let membership := Incidents.Cases.membershipOrNone membership
      let owner ← orFail (persistenceFailed requestId) (.findOrganizationIdByConsumerId consumerId)
      checkOwner membership owner requestId
      match authorizeConsumerManagement membership owner with
      | .ok () => return ()
      | .error _ => refuse (notAuthorizedForConsumer requestId)

def managing {α : Type} (verify : String → Option Incidents.VerifiedSession)
    (headers : List (String × Bytes)) (requestId : Uuid) (next : Actor → Handler α) : Handler α := do
  let actor ← lift (Incidents.Reviewer.actorFromHeaders verify headers requestId)
  match authorize actor .manageSubscriptions with
  | .error _ => refuse (notAuthorized requestId)
  | .ok () => next actor

inductive SubscriptionRuleInput where
  | incidentType (values : List IncidentType)
  | severity (operator : String) (value : Severity)
  | eventType (values : List CaseEventType)
  | geography (areas : List String)
  | visibility (values : List AlertVisibility)

def toDomainRule (requestId : Uuid) : SubscriptionRuleInput → Except ApiError SubscriptionRule
  | .incidentType values => .ok (.incidentType values)
  | .severity operator value =>
      match Comparison.fromDatabaseValue operator with
      | none => .error (invalidSeverityOperator requestId)
      | some operator => .ok (.severity operator value)
  | .eventType values => .ok (.eventType values)
  | .geography areas =>
      match areas.mapM GeoArea.new with
      | .error _ => .error (invalidGeographyArea requestId)
      | .ok areas => if areas = [] then .error (noGeographyArea requestId) else .ok (.geography areas)
  | .visibility values => .ok (.visibility values)

/-- Saves the subscription and reads it back for the response. -/
def saveSubscription (subscription : Subscription) (requestId : Uuid) : Handler Subscription := do
  let _ ← orFail (persistenceFailed requestId) (.createSubscription subscription)
  match ← orFail (persistenceFailed requestId) (.findSubscription subscription.id) with
  | some subscription => return subscription
  | none => .fail (.panicked "the subscription was just created above")

def createSubscription (verify : String → Option Incidents.VerifiedSession) (fresh : Supply)
    (headers : List (String × Bytes)) (consumerId : ConsumerId)
    (rules : List SubscriptionRuleInput) (requestId : Uuid) : Handler Subscription :=
  managing verify headers requestId fun actor => do
    authorizeConsumerAccess actor consumerId requestId
    match rules.mapM (toDomainRule requestId) with
    | .error error => refuse error
    | .ok rules =>
        match Subscription.new ⟨fresh 0⟩ consumerId 1 rules with
        | .error _ => refuse (emptySubscriptionRules requestId)
        | .ok subscription => saveSubscription subscription requestId

/-- A platform admin is shown everything, anyone else what their own organization's consumer gets. -/
def listAllSubscriptions (verify : String → Option Incidents.VerifiedSession)
    (headers : List (String × Bytes)) (limit offset : Option Nat) (requestId : Uuid) :
    Handler (List Subscription) :=
  managing verify headers requestId fun actor =>
    match actor with
    | .automated => refuse (notAuthorized requestId)
    | .reviewer reviewerId => do
        let membership ← findMembership (persistenceFailed requestId) reviewerId
        let membership := Incidents.Cases.membershipOrNone membership
        if membership.role = .platformAdmin then
          orFail (persistenceFailed requestId)
            (.listAllSubscriptions (min (limit.getD 50) 100) (offset.getD 0))
        else match membership.organizationId with
          | none => return []
          | some organizationId => do
              let organization ← findOrganization (persistenceFailed requestId) organizationId
              match organization.bind (·.consumerId) with
              | none => return []
              | some consumerId =>
                  orFail (persistenceFailed requestId)
                    (.incident (.findSubscriptionsByConsumer consumerId))

def listSubscriptionsForConsumer (verify : String → Option Incidents.VerifiedSession)
    (headers : List (String × Bytes)) (consumerId : ConsumerId) (requestId : Uuid) :
    Handler (List Subscription) :=
  managing verify headers requestId fun actor => do
    authorizeConsumerAccess actor consumerId requestId
    orFail (persistenceFailed requestId) (.incident (.findSubscriptionsByConsumer consumerId))

/-- Saves the new rules unless the subscription moved on since it was read. -/
def saveRules (fresh : Supply) (subscription : Subscription) (actor : Actor) (conflict : ApiError)
    (requestId : Uuid) : Handler Subscription := do
  let updated ← orFail (persistenceFailed requestId)
    (.updateSubscription (fresh 0) subscription actor requestId)
  if updated then return subscription else refuse conflict

def updateSubscription (verify : String → Option Incidents.VerifiedSession) (fresh : Supply)
    (headers : List (String × Bytes)) (id : SubscriptionId) (rules : List SubscriptionRuleInput)
    (requestId : Uuid) : Handler Subscription :=
  managing verify headers requestId fun actor => do
    match ← orFail (persistenceFailed requestId) (.findSubscription id) with
    | none => refuse (subscriptionNotFound requestId)
    | some subscription =>
        authorizeConsumerAccess actor subscription.consumerId requestId
        match rules.mapM (toDomainRule requestId) with
        | .error error => refuse error
        | .ok rules =>
            match subscription.updateRules rules with
            | .error _ => refuse (emptySubscriptionRules requestId)
            | .ok subscription =>
                saveRules fresh subscription actor (subscriptionModifiedConcurrently requestId)
                  requestId

structure ChannelEndpointInput where
  channel : String
  address : String

def toEndpoint (requestId : Uuid) (input : ChannelEndpointInput) : Except ApiError ChannelEndpoint :=
  match ChannelType.fromDatabaseValue input.channel with
  | none => .error (invalidChannel requestId)
  | some channel => (ChannelEndpoint.new channel input.address).mapError fun _ =>
      invalidChannelEndpointAddress requestId

def toPreference (requestId : Uuid) (strategy : String) (channels : List ChannelEndpointInput) :
    Except ApiError DeliveryPreference := do
  match DeliveryStrategy.fromDatabaseValue strategy with
  | none => .error (invalidDeliveryStrategy requestId)
  | some strategy =>
      let channels ← channels.mapM (toEndpoint requestId)
      (DeliveryPreference.new strategy channels).mapError (deliveryPreferenceError requestId)

def setDeliveryPreference (verify : String → Option Incidents.VerifiedSession)
    (headers : List (String × Bytes)) (consumerId : ConsumerId) (strategy : String)
    (channels : List ChannelEndpointInput) (requestId : Uuid) :
    Handler (ConsumerId × DeliveryPreference) :=
  managing verify headers requestId fun actor => do
    authorizeConsumerAccess actor consumerId requestId
    match toPreference requestId strategy channels with
    | .error error => refuse error
    | .ok preference =>
        let _ ← orFail (persistenceFailed requestId) (.upsertDeliveryPreference consumerId preference)
        return (consumerId, preference)

def getDeliveryPreference (verify : String → Option Incidents.VerifiedSession)
    (headers : List (String × Bytes)) (consumerId : ConsumerId) (requestId : Uuid) :
    Handler (ConsumerId × DeliveryPreference) :=
  managing verify headers requestId fun actor => do
    authorizeConsumerAccess actor consumerId requestId
    match ← orFail (persistenceFailed requestId) (.findDeliveryPreference consumerId) with
    | none => refuse (deliveryPreferenceNotFound requestId)
    | some preference => return (consumerId, preference)

end SafeCameroon.Access.Subscriptions
