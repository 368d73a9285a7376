import SafeCameroon.Application.Webhook
import SafeCameroon.Library.Json
import SafeCameroon.Library.Numeral

namespace SafeCameroon

open Text

/-- What verification takes from other libraries: HMAC-SHA256 of a message under a key, and the JSON
parser with the text of its errors. -/
structure WebhookLibraries where
  hmacSha256 : Bytes → Bytes → Bytes
  fromSlice : Bytes → Except String Json

namespace HmacSignedWebhookVerifier

def signatureHeader : String := "x-signature"

def orNotHex : Option Bytes → Except WebhookVerificationError Bytes
  | some bytes => .ok bytes
  | none => .error { reason := "signature header is not valid hex" }

/-- The decoder of the signature header; the outer error is a panic. -/
def decodeHex (value : String) : Except String (Except WebhookVerificationError Bytes) :=
  (Numeral.decodeHex value.toList).map orNotHex

def field (payload : Json) (name : String) : Except WebhookVerificationError String :=
  match (payload.get name).bind Json.asStr with
  | some value => .ok value
  | none => .error { reason := "missing or non-string field: " ++ name }

def statusOf (payload : Json) (status : String) :
    Except WebhookVerificationError ProviderDeliveryStatus :=
  if status = "DELIVERED" then .ok .delivered
  else if status = "FAILED" then do
    let reason ← field payload "reason"
    return .failed (((payload.get "retryable").bind Json.asBool).getD false) reason
  else .error { reason := "unrecognized status: " ++ status }

/-- Checks the signature of the raw body and only then reads it. -/
def verifyAndParse (libraries : WebhookLibraries) (secret : Bytes) (headers : Headers)
    (rawBody : Bytes) : Except String (Except WebhookVerificationError WebhookEvent) :=
  match headers.find? fun header => eqIgnoreAsciiCase header.1 signatureHeader with
  | none => .ok (.error { reason := "missing signature header" })
  | some header => (decodeHex header.2).map fun decoded => do
      let signature ← decoded
      if signature = libraries.hmacSha256 secret rawBody then
        let payload ← (libraries.fromSlice rawBody).mapError fun error =>
          { reason := "invalid payload: " ++ error }
        let providerEventId ← field payload "event_id"
        let providerMessageId ← field payload "message_id"
        let statusText ← field payload "status"
        let status ← statusOf payload statusText
        return { providerEventId, providerMessageId, status }
      else throw { reason := "signature does not match the payload" }

def new (libraries : WebhookLibraries) (channelType : ChannelType) (secret : Bytes) :
    WebhookVerifier :=
  { channelType, verifyAndParse := verifyAndParse libraries secret }

end HmacSignedWebhookVerifier

end SafeCameroon
