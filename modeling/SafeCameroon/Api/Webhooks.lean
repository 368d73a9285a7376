import SafeCameroon.Api.Request
import SafeCameroon.Delivery.Calls
import SafeCameroon.Infrastructure.Webhook

namespace SafeCameroon

open Process Text

/-- A request to the callback endpoint; the names of its headers are in lower case. -/
structure WebhookRequest where
  channelSegment : String
  provider : String
  headers : List (String × Bytes)
  body : Bytes
  deriving DecidableEq

abbrev Handler := Proc deliveryInterface HandlerError

namespace Webhooks

def sandboxWebhookProvider : String := "sandbox"

def buildVerifiers (libraries : WebhookLibraries) (webhookSecret : Bytes) :
    WebhookVerifierRegistry :=
  [ChannelType.whatsApp, .sms, .email].foldl (fun registry channel =>
    registry.register sandboxWebhookProvider
      (HmacSignedWebhookVerifier.new libraries channel webhookSecret)) .new

def persistenceFailed (requestId : Uuid) : ApiError :=
  { status := 500, code := "WEBHOOK_PERSISTENCE_FAILED"
    message := "The webhook event could not be recorded. Please retry.", requestId }

def unknownWebhookChannel (requestId : Uuid) : ApiError :=
  { status := 404, code := "UNKNOWN_WEBHOOK_CHANNEL"
    message := "No channel is registered with this name.", requestId }

def unknownWebhookProvider (requestId : Uuid) : ApiError :=
  { status := 404, code := "UNKNOWN_WEBHOOK_PROVIDER"
    message := "No webhook provider is registered for this channel.", requestId }

def webhookVerificationFailed (requestId : Uuid) : ApiError :=
  { status := 401, code := "WEBHOOK_VERIFICATION_FAILED"
    message := "The webhook signature or payload could not be verified.", requestId }

/-- What the handler does before it first touches the database. -/
def authenticate (registry : WebhookVerifierRegistry) (request : WebhookRequest)
    (requestId : Uuid) : Except HandlerError (ChannelType × WebhookEvent) :=
  match ChannelType.fromDatabaseValue (toAsciiUppercase request.channelSegment) with
  | none => .error (.api (unknownWebhookChannel requestId))
  | some channel =>
      match registry.get channel request.provider with
      | none => .error (.api (unknownWebhookProvider requestId))
      | some verifier =>
          let headerPairs := request.headers.filterMap fun header =>
            (headerText header.2).map fun value => (header.1, value)
          match verifier.verifyAndParse headerPairs request.body with
          | .error message => .error (.panicked message)
          | .ok (.error _) => .error (.api (webhookVerificationFailed requestId))
          | .ok (.ok event) => .ok (channel, event)

/-- A repository call whose error becomes the 500 that makes the provider post again. -/
def persist (requestId : Uuid) (call : Call) : Handler call.Res :=
  Proc.perform (I := deliveryInterface) call fun
    | .database => .api (persistenceFailed requestId)
    | .panic message => .panicked message

def findByProviderMessageId (requestId : Uuid) (providerMessageId : String) :
    Handler (Option Delivery) := do
  match ← persist requestId (.findSentAttempt providerMessageId) with
  | some id => persist requestId (.findDelivery id)
  | none => return none

def applyVerified (fresh : Supply) (requestId : Uuid) (channel : ChannelType) (event : WebhookEvent) :
    Handler Nat := do
  let isNew ← persist requestId (.recordIfNew channel event.providerEventId)
  if isNew then
    match ← findByProviderMessageId requestId event.providerMessageId with
    | none => return 200
    | some delivery =>
        match applyWebhookEvent fresh delivery event .automated requestId with
        | .error _ => return 200
        | .ok (delivery, .delivered transition) =>
            let _ ← persist requestId (.applyTransition delivery transition)
            return 200
        | .ok (delivery, .failed transition) =>
            let _ ← persist requestId (.applyAttemptTransition delivery transition)
            return 200
  else return 200

def receiveWebhook (registry : WebhookVerifierRegistry) (fresh : Supply) (request : WebhookRequest) :
    Handler Nat :=
  let requestId := requestIdFromHeaders (fresh 4) request.headers
  match authenticate registry request requestId with
  | .error error => .fail error
  | .ok (channel, event) => applyVerified fresh requestId channel event

def callback (registry : WebhookVerifierRegistry) (fresh : Supply) (request : WebhookRequest) :
    Option (ChannelType × WebhookEvent) :=
  (authenticate registry request (requestIdFromHeaders (fresh 4) request.headers)).toOption

/-- Runs the handler and sends its response, unless it panicked. -/
def serve (registry : WebhookVerifierRegistry) (fresh : Supply) (request : WebhookRequest) :
    Handler Unit := do
  let status ← match ← (receiveWebhook registry fresh request).attempt with
    | .ok status => pure status
    | .error (.api error) => pure error.status
    | .error (.panicked message) => .fail (.panicked message)
  Proc.perform (I := deliveryInterface) (.respond (callback registry fresh request) status) fun _ =>
    .panicked "the response could not be sent"

end Webhooks

end SafeCameroon
