import SafeCameroon.Application.Channel
import SafeCameroon.Application.Webhook
import SafeCameroon.Library.Json

namespace SafeCameroon

open Text

/-- What comes of a request to a provider: an error without a response, or a status with the bytes of
the body or the error of a body that broke off. -/
inductive HttpOutcome where
  | unreachable (error : String)
  | response (status : Nat) (body : Except String Bytes)

def isSuccess (status : Nat) : Bool := decide (200 ≤ status) && decide (status < 300)

def isServerError (status : Nat) : Bool := decide (500 ≤ status) && decide (status < 600)

/-- What the adapters take from other libraries: the text of a status, the JSON parser, and the text of
the error for a body that is not what was expected. -/
structure HttpLibraries where
  statusText : Nat → String
  fromSlice : Bytes → Option Json
  decodeError : Bytes → String

/-- The derived reader of a record with one field: an object with exactly one member of that name, or
an array of nothing but its value. -/
def soleField (name : String) : Json → Option Json
  | .object members =>
      match members.filter fun member => member.1 = name with
      | [member] => some member.2
      | _ => none
  | .array [value] => some value
  | _ => none

/-- What an adapter for a provider behind HTTP is made of: its texts, the addresses it accepts, the
refusals worth a retry, and its reader of the body of a success. -/
structure HttpChannel where
  channelName : String
  providerName : String
  wellFormed : String → Bool
  reason : String
  transient : Nat → Bool
  deserialize : Json → Option (Option String)

namespace HttpChannel

def readBody (libraries : HttpLibraries) (channel : HttpChannel) :
    Except String Bytes → Except String (Option String)
  | .error error => .error error
  | .ok body =>
      match (libraries.fromSlice body).bind channel.deserialize with
      | some messageId => .ok messageId
      | none => .error (libraries.decodeError body)

/-- Sends one message; an address that is not well formed is refused before any request. -/
def send (libraries : HttpLibraries) (channel : HttpChannel) (message : OutboundMessage)
    (outcome : HttpOutcome) : Except ChannelError ChannelSendOutcome :=
  if channel.wellFormed message.endpointAddress then
    match outcome with
    | .unreachable error => .error
        { retryable := true
          message := channel.channelName ++ ": could not reach " ++ channel.providerName ++ ": " ++
            error }
    | .response status body =>
        if isSuccess status then
          match channel.readBody libraries body with
          | .ok providerMessageId => .ok { providerMessageId }
          | .error error => .error
              { retryable := true
                message := channel.channelName ++ ": unexpected response from " ++
                  channel.providerName ++ ": " ++ error }
        else .error
          { retryable := channel.transient status || isServerError status
            message := channel.channelName ++ ": " ++ channel.providerName ++
              " rejected the request (" ++ libraries.statusText status ++ ")" }
  else .error { retryable := false, message := channel.channelName ++ ": " ++ channel.reason }

def acknowledges (channel : HttpChannel) (message : OutboundMessage) : HttpOutcome → Bool
  | .response status _ => channel.wellFormed message.endpointAddress && isSuccess status
  | .unreachable _ => false

def readable (libraries : HttpLibraries) (channel : HttpChannel) : HttpOutcome → Bool
  | .response _ body => (channel.readBody libraries body).isOk
  | .unreachable _ => false

theorem send_acknowledged (libraries : HttpLibraries) (channel : HttpChannel)
    (message : OutboundMessage) (outcome : HttpOutcome)
    (acknowledged : channel.acknowledges message outcome = true) :
    if channel.readable libraries outcome then
      ∃ sent, channel.send libraries message outcome = .ok sent
    else ∃ error, channel.send libraries message outcome = .error error ∧ error.retryable = true := by
  cases outcome with
  | unreachable error => simp [acknowledges] at acknowledged
  | response status body =>
      simp only [acknowledges, Bool.and_eq_true] at acknowledged
      cases read : channel.readBody libraries body with
      | ok messageId => simp [readable, send, acknowledged, read, Except.isOk, Except.toBool]
      | error error => simp [readable, send, acknowledged, read, Except.isOk, Except.toBool]

end HttpChannel

/-- A local part, an at sign, a domain with a dot, and no white space anywhere. -/
def looksLikeEmail (address : String) : Bool :=
  match address.toList.span (· ≠ '@') with
  | (_, []) => false
  | (localPart, _ :: domain) =>
      !localPart.isEmpty && !domain.isEmpty && domain.contains '.' &&
        !address.toList.any isWhitespace

/-- A plus sign and eight to fifteen digits. -/
def looksLikeE164 (address : String) : Bool :=
  match address.toList with
  | '+' :: digits =>
      decide (8 ≤ digits.length) && decide (digits.length ≤ 15) && digits.all Char.isDigit
  | _ => false

def sendEmailResponse (payload : Json) : Option String :=
  (soleField "id" payload).bind Json.asStr

def resendEmailChannel : HttpChannel where
  channelName := "Email"
  providerName := "Resend"
  wellFormed := looksLikeEmail
  reason := "expected a well-formed email address"
  transient := fun status => decide (status = 409) || decide (status = 429)
  deserialize := fun payload => (sendEmailResponse payload).map some

def sentMessage (payload : Json) : Option String :=
  (soleField "messageId" payload).bind Json.asStr

def sendSmsResponse (payload : Json) : Option (List String) :=
  ((soleField "messages" payload).bind Json.asArray).bind fun elements => elements.mapM sentMessage

def infobipSmsChannel : HttpChannel where
  channelName := "SMS"
  providerName := "Infobip"
  wellFormed := looksLikeE164
  reason := "expected E.164 format, e.g. +237600000000"
  transient := fun status => decide (status = 429)
  deserialize := fun payload => (sendSmsResponse payload).map List.head?

def httpChannel : ChannelType → Option HttpChannel
  | .email => some resendEmailChannel
  | .sms => some infobipSmsChannel
  | .whatsApp => none
  | .push => none

end SafeCameroon
