import SafeCameroon.Api.CitizenSubscriptions
import SafeCameroon.Api.Organizations
import SafeCameroon.Api.Subscriptions
import SafeCameroon.Incidents.Requests

namespace SafeCameroon.Access

open Process Text

/-- The requests about accounts, organizations and subscriptions that a handler serves. The access
layer in front of the handlers lets all of them through. -/
inductive Request where
  | register (request : Auth.RegisterRequest)
  | googleLogin (idToken : String)
  | createOrganization (name : String)
  | setOrganizationActive (id : OrganizationId) (isActive : Bool)
  | createSubscription (consumerId : ConsumerId) (rules : List Subscriptions.SubscriptionRuleInput)
  | updateSubscription (id : SubscriptionId) (rules : List Subscriptions.SubscriptionRuleInput)
  | listSubscriptionsForConsumer (consumerId : ConsumerId)
  | listAllSubscriptions (limit offset : Option Nat)
  | setDeliveryPreference (consumerId : ConsumerId) (strategy : String)
      (channels : List Subscriptions.ChannelEndpointInput)
  | getDeliveryPreference (consumerId : ConsumerId)
  | createCitizenSubscription (request : CitizenSubscriptions.CreateRequest)
  | getCitizenSubscription (id : SubscriptionId)
  | updateCitizenSubscription (id : SubscriptionId) (request : CitizenSubscriptions.UpdateRequest)
  | cancelCitizenSubscription (id : SubscriptionId)

/-- What a request that succeeds is answered with. -/
inductive Response where
  | registered (response : Auth.RegisterResponse)
  | loggedIn (response : Auth.LoginResponse)
  | organization (organization : Organization)
  | subscription (subscription : Subscription)
  | subscriptions (subscriptions : List Subscription)
  | deliveryPreference (consumerId : ConsumerId) (preference : DeliveryPreference)
  | citizenSubscription (response : CitizenSubscriptions.CreateResponse)
  | rules (response : CitizenSubscriptions.RulesResponse)
  | noContent

/-- How the deployment is configured, and what others say of the tokens they issued. -/
structure Server extends Incidents.Server where
  verifyIdToken : String → Option String

namespace Server

def handle (server : Server) (fresh : Supply) (headers : List (String × Bytes)) (requestId : Uuid) :
    Request → Handler Response
  | .register request =>
      .registered <$> Auth.register server.verify fresh headers request requestId
  | .googleLogin idToken => .loggedIn <$>
      Auth.googleLogin server.unicode server.verifyIdToken fresh headers idToken requestId
  | .createOrganization name => .organization <$>
      Organizations.createOrganization server.verify fresh headers name requestId
  | .setOrganizationActive id isActive => .organization <$>
      Organizations.setOrganizationActive server.verify headers id isActive requestId
  | .createSubscription consumerId rules => .subscription <$>
      Subscriptions.createSubscription server.verify fresh headers consumerId rules requestId
  | .updateSubscription id rules => .subscription <$>
      Subscriptions.updateSubscription server.verify fresh headers id rules requestId
  | .listSubscriptionsForConsumer consumerId => .subscriptions <$>
      Subscriptions.listSubscriptionsForConsumer server.verify headers consumerId requestId
  | .listAllSubscriptions limit offset => .subscriptions <$>
      Subscriptions.listAllSubscriptions server.verify headers limit offset requestId
  | .setDeliveryPreference consumerId strategy channels =>
      (fun saved => .deliveryPreference saved.1 saved.2) <$>
        Subscriptions.setDeliveryPreference server.verify headers consumerId strategy channels
          requestId
  | .getDeliveryPreference consumerId => (fun found => .deliveryPreference found.1 found.2) <$>
      Subscriptions.getDeliveryPreference server.verify headers consumerId requestId
  | .createCitizenSubscription request => .citizenSubscription <$>
      CitizenSubscriptions.create server.sha256 fresh headers request requestId
  | .getCitizenSubscription id => .rules <$>
      CitizenSubscriptions.get server.sha256 headers id requestId
  | .updateCitizenSubscription id request => .rules <$>
      CitizenSubscriptions.update server.sha256 fresh headers id request requestId
  | .cancelCitizenSubscription id => (fun _ => .noContent) <$>
      CitizenSubscriptions.cancel server.sha256 headers id requestId

end Server

/-- A request with its headers and the identifiers its handler draws. -/
structure Job where
  fresh : Supply
  headers : List (String × Bytes)
  request : Request

namespace Job

def requestId (job : Job) : Uuid := requestIdFromHeaders (job.fresh 4) job.headers

/-- The reviewer that the session token of the request names. -/
def caller (server : Server) (job : Job) : Option Uuid :=
  ((((header "authorization" job.headers).bind headerText).bind
    Incidents.Reviewer.bearerToken).bind server.verify).map (·.reviewerId)

end Job

def Server.run (server : Server) (job : Job) : Handler Response :=
  server.handle job.fresh job.headers job.requestId job.request

abbrev Server.pool (server : Server) (jobs : Nat → Job) : Nat → Handler Response :=
  fun pid => server.run (jobs pid)

variable (lower : PostgresReviewerRepository.Lower)

/-- Requests meet in any order, any call may fail, and any request may be dropped between two calls. -/
abbrev freeRules : Rules (accessMachine lower) := .free _

abbrev Pool := Config (accessMachine lower) HandlerError Response

abbrev Server.Reaches (server : Server) (jobs : Nat → Job) (rules : Rules (accessMachine lower))
    (init : Registry) : Pool lower → Prop :=
  Reach rules (server.pool jobs) (initially (World.initial init))

end SafeCameroon.Access
