import SafeCameroon.Application.Webhook
import SafeCameroon.Domain.Consumer
import SafeCameroon.Domain.Delivery
import SafeCameroon.Domain.Subscription

namespace SafeCameroon

open Text

/-- Citizens are told of these alerts only, whatever they ask for. -/
def citizenAlertVisibilities : List AlertVisibility := [.community, .public]

def hashManagementToken (sha256 : String → Bytes) (token : String) : Bytes := sha256 token

/-- Compares every byte, whichever of them differ. -/
def constantTimeEq (a b : Bytes) : Bool :=
  if a.length ≠ b.length then false
  else (a.zip b).foldl (fun acc pair => acc ||| (pair.1 ^^^ pair.2)) 0 == 0

def verifyManagementToken (sha256 : String → Bytes) (token : String) (storedHash : Bytes) : Bool :=
  constantTimeEq (hashManagementToken sha256 token) storedHash

theorem foldl_or_eq_zero (pairs : List (UInt8 × UInt8)) (acc : UInt8) :
    pairs.foldl (fun acc pair => acc ||| (pair.1 ^^^ pair.2)) acc = 0 ↔
      acc = 0 ∧ ∀ pair ∈ pairs, pair.1 = pair.2 := by
  induction pairs generalizing acc with
  | nil => simp
  | cons pair pairs ih =>
      rw [List.foldl_cons, ih, UInt8.or_eq_zero_iff, UInt8.xor_eq_zero_iff, List.forall_mem_cons,
        and_assoc]

theorem constantTimeEq_iff (a b : Bytes) : constantTimeEq a b = true ↔ a = b := by
  by_cases sameLength : a.length = b.length
  · simp only [constantTimeEq, sameLength, ne_eq, not_true_eq_false, if_false, beq_iff_eq,
      foldl_or_eq_zero, true_and]
    induction a generalizing b with
    | nil =>
        have empty : b = [] := List.length_eq_zero_iff.mp sameLength.symm
        simp [empty]
    | cons byte bytes ih =>
        cases b with
        | nil => simp at sameLength
        | cons other others =>
            have shorter : bytes.length = others.length := by simpa using sameLength
            rw [List.zip_cons_cons, List.forall_mem_cons, ih others shorter, List.cons.injEq]
  · have different : a ≠ b := fun same => sameLength (congrArg List.length same)
    simp [constantTimeEq, sameLength, different]

theorem verifyManagementToken_iff (sha256 : String → Bytes) (token : String) (storedHash : Bytes) :
    verifyManagementToken sha256 token storedHash = true ↔ sha256 token = storedHash :=
  constantTimeEq_iff _ _

inductive CitizenSubscriptionError where
  | emptyIncidentTypes
  | invalidGeography
  | invalidPushSubscription
  deriving DecidableEq, Repr

structure PushSubscriptionInput where
  endpoint : String
  p256dh : String
  auth : String
  deriving DecidableEq, Repr

def jsonEscape (c : Char) : List Char :=
  if c = '"' then ['\\', '"']
  else if c = '\\' then ['\\', '\\']
  else if c.toNat = 8 then ['\\', 'b']
  else if c.toNat = 9 then ['\\', 't']
  else if c.toNat = 10 then ['\\', 'n']
  else if c.toNat = 12 then ['\\', 'f']
  else if c.toNat = 13 then ['\\', 'r']
  else if c.toNat < 32 then ['\\', 'u'] ++ hexText 4 c.toNat
  else [c]

def jsonString (text : String) : String :=
  "\"" ++ String.ofList (text.toList.flatMap jsonEscape) ++ "\""

def PushSubscriptionInput.toJson (input : PushSubscriptionInput) : String :=
  "\x7b\"endpoint\":" ++ (jsonString input.endpoint ++ ",\"keys\":\x7b\"p256dh\":" ++
    jsonString input.p256dh ++ ",\"auth\":" ++ jsonString input.auth ++ "\x7d\x7d")

theorem PushSubscriptionInput.toJson_nonblank (input : PushSubscriptionInput) :
    trim input.toJson ≠ "" := by
  have first : '{' ∈ "\x7b\"endpoint\":".toList := by simp
  have brace : '{' ∈ input.toJson.toList := by
    rw [toJson, String.toList_append]
    exact List.mem_append_left _ first
  intro blank
  have space := trim_eq_empty.mp blank '{' brace
  exact absurd space (by decide)

structure CitizenSubscriptionRequest where
  incidentTypes : List IncidentType
  minimumSeverity : Severity
  geography : List String
  pushSubscriptionJson : String
  locale : Option String

structure PreparedCitizenSubscription where
  consumer : Consumer
  deliveryPreference : DeliveryPreference
  subscription : Subscription
  managementToken : String
  managementTokenHash : Bytes

def geoAreas (geography : List String) : List GeoArea :=
  geography.filterMap fun area => (GeoArea.new area).toOption

def pushPreference (endpoint : ChannelEndpoint) : DeliveryPreference :=
  { strategy := .all, channels := [endpoint], nonempty := by simp, distinct := by simp }

/-- Makes the consumer, the preference, the subscription and the token of a new citizen; the token is
a fresh identifier. -/
def prepareCitizenSubscription (sha256 : String → Bytes) (fresh : Supply)
    (request : CitizenSubscriptionRequest) :
    Except CitizenSubscriptionError PreparedCitizenSubscription :=
  if request.incidentTypes = [] then .error .emptyIncidentTypes
  else if geoAreas request.geography = [] then .error .invalidGeography
  else match ChannelEndpoint.new .push request.pushSubscriptionJson with
    | .error _ => .error .invalidPushSubscription
    | .ok endpoint =>
        let consumer : Consumer :=
          { id := ⟨fresh 0⟩, name := "Citizen (self-subscribed)", consumerType := .citizen
            locale := none }
        let consumer := consumer.withLocale request.locale
        let subscription : Subscription :=
          { id := ⟨fresh 1⟩, consumerId := consumer.id, version := 1
            rules := [.incidentType request.incidentTypes,
              .severity .greaterThanOrEqual request.minimumSeverity,
              .geography (geoAreas request.geography), .visibility citizenAlertVisibilities]
            nonempty := by simp }
        let managementToken := (fresh 2).display
        .ok { consumer, deliveryPreference := pushPreference endpoint, subscription, managementToken
              managementTokenHash := hashManagementToken sha256 managementToken }

end SafeCameroon
