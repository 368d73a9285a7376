import SafeCameroon.Api.Auth
import SafeCameroon.Application.CitizenSubscription

namespace SafeCameroon.Access.CitizenSubscriptions

open Process Text

/-- The one answer to a missing subscription, a missing token and a wrong one. -/
def notFound (requestId : Uuid) : ApiError :=
  { status := 404, code := "CITIZEN_SUBSCRIPTION_NOT_FOUND"
    message := "No citizen subscription exists with that id and management token.", requestId }

def persistenceFailed (requestId : Uuid) : ApiError :=
  { status := 500, code := "SUBSCRIPTION_PERSISTENCE_FAILED"
    message := "The request could not be saved. Please try again.", requestId }

def invalidRequest (requestId : Uuid) : CitizenSubscriptionError → ApiError
  | .emptyIncidentTypes =>
      { status := 400, code := "EMPTY_INCIDENT_TYPES"
        message := "At least one incident type is required.", requestId }
  | .invalidGeography =>
      { status := 400, code := "INVALID_GEOGRAPHY_AREA", message := "geography cannot be blank."
        requestId }
  | .invalidPushSubscription =>
      { status := 400, code := "INVALID_PUSH_SUBSCRIPTION"
        message := "push_subscription is invalid.", requestId }

def subscriptionVersionConflict (requestId : Uuid) : ApiError :=
  { status := 409, code := "SUBSCRIPTION_VERSION_CONFLICT"
    message := "This subscription changed since it was last read. Please retry.", requestId }

structure CreateRequest where
  incidentTypes : List IncidentType
  minimumSeverity : Severity
  geography : List String
  pushSubscription : PushSubscriptionInput
  locale : Option String

structure CreateResponse where
  consumerId : ConsumerId
  subscriptionId : SubscriptionId
  managementToken : String
  deriving DecidableEq, Repr

/-- Commits the consumer, its preference and its subscription one after the other. -/
def savePrepared (prepared : PreparedCitizenSubscription) (requestId : Uuid) :
    Handler CreateResponse := do
  let _ ← orFail (persistenceFailed requestId)
    (.createConsumerWithManagementToken prepared.consumer prepared.managementTokenHash)
  let _ ← orFail (persistenceFailed requestId)
    (.upsertDeliveryPreference prepared.consumer.id prepared.deliveryPreference)
  let _ ← orFail (persistenceFailed requestId) (.createSubscription prepared.subscription)
  return { consumerId := prepared.consumer.id, subscriptionId := prepared.subscription.id
           managementToken := prepared.managementToken }

def prepare (sha256 : String → Bytes) (fresh : Supply) (request : CreateRequest) :
    Except CitizenSubscriptionError PreparedCitizenSubscription :=
  prepareCitizenSubscription sha256 fresh
    { incidentTypes := request.incidentTypes, minimumSeverity := request.minimumSeverity
      geography := request.geography, pushSubscriptionJson := request.pushSubscription.toJson
      locale := request.locale }

def create (sha256 : String → Bytes) (fresh : Supply) (headers : List (String × Bytes))
    (request : CreateRequest) (requestId : Uuid) : Handler CreateResponse := do
  lift (Incidents.Reports.enforceRateLimit .citizenSubscriptionCreation headers requestId)
  match prepare sha256 fresh request with
  | .error error => refuse (invalidRequest requestId error)
  | .ok prepared => savePrepared prepared requestId

def presentedToken (headers : List (String × Bytes)) : Option String :=
  (((header "management-token" headers).bind headerText).map trim).filter (· ≠ "")

/-- The subscription, for whoever presents the token of its consumer. -/
def authorizeCitizenSubscription (sha256 : String → Bytes) (id : SubscriptionId)
    (headers : List (String × Bytes)) (requestId : Uuid) : Handler Subscription := do
  match ← orFail (persistenceFailed requestId) (.findSubscription id) with
  | none => refuse (notFound requestId)
  | some subscription =>
      match presentedToken headers with
      | none => refuse (notFound requestId)
      | some token =>
          match ← orFail (persistenceFailed requestId)
              (.managementTokenHash subscription.consumerId) with
          | none => refuse (notFound requestId)
          | some storedHash =>
              if verifyManagementToken sha256 token storedHash then return subscription
              else refuse (notFound requestId)

structure RulesResponse where
  incidentTypes : List IncidentType
  minimumSeverity : Severity
  geography : List String
  deriving DecidableEq, Repr

/-- What the rules choose; the last rule of a kind counts. -/
def rulesResponse (subscription : Subscription) : RulesResponse :=
  subscription.rules.foldl (fun response rule => match rule with
    | .incidentType values => { response with incidentTypes := values }
    | .severity _ value => { response with minimumSeverity := value }
    | .geography areas => { response with geography := areas.map (·.text) }
    | .eventType _ | .visibility _ => response)
    { incidentTypes := [], minimumSeverity := .low, geography := [] }

def get (sha256 : String → Bytes) (headers : List (String × Bytes)) (id : SubscriptionId)
    (requestId : Uuid) : Handler RulesResponse := do
  let subscription ← authorizeCitizenSubscription sha256 id headers requestId
  return rulesResponse subscription

structure UpdateRequest where
  incidentTypes : List IncidentType
  minimumSeverity : Severity
  geography : List String
  pushSubscription : Option PushSubscriptionInput

def updatedRules (request : UpdateRequest) : List SubscriptionRule :=
  [.incidentType request.incidentTypes, .severity .greaterThanOrEqual request.minimumSeverity,
    .geography (request.geography.filterMap fun area => (GeoArea.new area).toOption),
    .visibility citizenAlertVisibilities]

def updatePreference (consumerId : ConsumerId) (pushSubscription : Option PushSubscriptionInput)
    (requestId : Uuid) : Handler Unit :=
  match pushSubscription with
  | none => return ()
  | some pushSubscription =>
      match ChannelEndpoint.new .push pushSubscription.toJson with
      | .error _ => refuse (invalidRequest requestId .invalidPushSubscription)
      | .ok endpoint =>
          orFail (persistenceFailed requestId)
            (.upsertDeliveryPreference consumerId (pushPreference endpoint))

def update (sha256 : String → Bytes) (fresh : Supply) (headers : List (String × Bytes))
    (id : SubscriptionId) (request : UpdateRequest) (requestId : Uuid) : Handler RulesResponse := do
  let subscription ← authorizeCitizenSubscription sha256 id headers requestId
  if request.incidentTypes = [] then refuse (invalidRequest requestId .emptyIncidentTypes)
  else if (request.geography.filterMap fun area => (GeoArea.new area).toOption) = [] then
    refuse (invalidRequest requestId .invalidGeography)
  else match subscription.updateRules (updatedRules request) with
    | .error _ => .fail (.panicked
        "rules is never empty: it always includes the incident-type rule")
    | .ok subscription => do
        let updated ← orFail (persistenceFailed requestId)
          (.updateSubscription (fresh 0) subscription .automated requestId)
        if updated then
          updatePreference subscription.consumerId request.pushSubscription requestId
          return rulesResponse subscription
        else refuse (subscriptionVersionConflict requestId)

def cancel (sha256 : String → Bytes) (headers : List (String × Bytes)) (id : SubscriptionId)
    (requestId : Uuid) : Handler Unit := do
  let subscription ← authorizeCitizenSubscription sha256 id headers requestId
  orFail (persistenceFailed requestId) (.deleteSubscription subscription.id)

end SafeCameroon.Access.CitizenSubscriptions
