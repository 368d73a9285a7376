import SafeCameroon.Domain.Delivery

namespace SafeCameroon

open Text

structure OutboundMessage where
  endpointAddress : String
  body : String
  deriving DecidableEq, Repr

structure ChannelSendOutcome where
  providerMessageId : Option String
  deriving DecidableEq, Repr

structure ChannelError where
  retryable : Bool
  message : String
  deriving DecidableEq, Repr

def severityLabel : Severity → String
  | .low => "Low"
  | .medium => "Medium"
  | .high => "High"
  | .critical => "Critical"

def buildOutboundMessage (unicode : UnicodeData) (alert : Alert) (delivery : Delivery)
    (recipientLocale : Option String) : OutboundMessage :=
  let header := "[" ++ severityLabel alert.severity ++ "] " ++ alert.targetGeography.text
  let description := match alert.descriptionForLocale unicode recipientLocale with
    | some description => if trim description = "" then "" else "\n\n" ++ description
    | none => ""
  let contact := match alert.fieldValue .officialContact with
    | some contact => "\n\nContact: " ++ contact
    | none => ""
  let reference := match alert.fieldValue .caseReference with
    | some reference => "\nRef: " ++ reference
    | none => ""
  { endpointAddress := delivery.endpointAddress
    body := header ++ description ++ contact ++ reference }

end SafeCameroon
