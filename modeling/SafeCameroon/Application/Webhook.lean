import SafeCameroon.Domain.Delivery

namespace SafeCameroon

inductive ProviderDeliveryStatus where
  | delivered
  | failed (retryable : Bool) (reason : String)
  deriving DecidableEq, Repr

/-- A verified and parsed callback. -/
structure WebhookEvent where
  providerEventId : String
  providerMessageId : String
  status : ProviderDeliveryStatus
  deriving DecidableEq, Repr

structure WebhookVerificationError where
  reason : String
  deriving DecidableEq, Repr

/-- The request headers, as pairs of a name and a value. -/
abbrev Headers := List (String × String)

abbrev Bytes := List UInt8

/-- A verifier; the outer error is a panic. -/
structure WebhookVerifier where
  channelType : ChannelType
  verifyAndParse : Headers → Bytes → Except String (Except WebhookVerificationError WebhookEvent)

/-- The verifiers by channel and provider name. -/
structure WebhookVerifierRegistry where
  verifiers : List ((ChannelType × String) × WebhookVerifier)

namespace WebhookVerifierRegistry

def new : WebhookVerifierRegistry := { verifiers := [] }

/-- A later registration under the same channel and name replaces the earlier one. -/
def register (registry : WebhookVerifierRegistry) (provider : String) (verifier : WebhookVerifier) :
    WebhookVerifierRegistry :=
  { verifiers := ((verifier.channelType, provider), verifier) :: registry.verifiers }

def get (registry : WebhookVerifierRegistry) (channel : ChannelType) (provider : String) :
    Option WebhookVerifier :=
  (registry.verifiers.find? fun entry => entry.1 = (channel, provider)).map (·.2)

end WebhookVerifierRegistry

end SafeCameroon
