import SafeCameroon.Domain.Case

namespace SafeCameroon

open Text

inductive AlertVisibility where
  | internal
  | partner
  | community
  | «public»
  deriving DecidableEq, Repr

namespace AlertVisibility

def asDatabaseValue : AlertVisibility → String
  | .internal => "INTERNAL"
  | .partner => "PARTNER"
  | .community => "COMMUNITY"
  | .«public» => "PUBLIC"

def fromDatabaseValue (value : String) : Option AlertVisibility :=
  if value = "INTERNAL" then some .internal
  else if value = "PARTNER" then some .partner
  else if value = "COMMUNITY" then some .community
  else if value = "PUBLIC" then some .«public»
  else none

@[simp] theorem from_as (visibility : AlertVisibility) :
    fromDatabaseValue visibility.asDatabaseValue = some visibility := by
  cases visibility <;> decide

end AlertVisibility

inductive AlertField where
  | incidentCategory
  | approximateAge
  | lastSeenGeneralArea
  | timeWindow
  | safeDescription
  | officialContact
  | caseReference
  | reporterIdentity
  | internalNotes
  | exactLocation
  | witnessDetails
  | safeDescriptionEn
  | safeDescriptionFr
  deriving DecidableEq, Repr

namespace AlertField

def asDatabaseValue : AlertField → String
  | .incidentCategory => "INCIDENT_CATEGORY"
  | .approximateAge => "APPROXIMATE_AGE"
  | .lastSeenGeneralArea => "LAST_SEEN_GENERAL_AREA"
  | .timeWindow => "TIME_WINDOW"
  | .safeDescription => "SAFE_DESCRIPTION"
  | .officialContact => "OFFICIAL_CONTACT"
  | .caseReference => "CASE_REFERENCE"
  | .reporterIdentity => "REPORTER_IDENTITY"
  | .internalNotes => "INTERNAL_NOTES"
  | .exactLocation => "EXACT_LOCATION"
  | .witnessDetails => "WITNESS_DETAILS"
  | .safeDescriptionEn => "SAFE_DESCRIPTION_EN"
  | .safeDescriptionFr => "SAFE_DESCRIPTION_FR"

def fromDatabaseValue (value : String) : Option AlertField :=
  if value = "INCIDENT_CATEGORY" then some .incidentCategory
  else if value = "APPROXIMATE_AGE" then some .approximateAge
  else if value = "LAST_SEEN_GENERAL_AREA" then some .lastSeenGeneralArea
  else if value = "TIME_WINDOW" then some .timeWindow
  else if value = "SAFE_DESCRIPTION" then some .safeDescription
  else if value = "OFFICIAL_CONTACT" then some .officialContact
  else if value = "CASE_REFERENCE" then some .caseReference
  else if value = "REPORTER_IDENTITY" then some .reporterIdentity
  else if value = "INTERNAL_NOTES" then some .internalNotes
  else if value = "EXACT_LOCATION" then some .exactLocation
  else if value = "WITNESS_DETAILS" then some .witnessDetails
  else if value = "SAFE_DESCRIPTION_EN" then some .safeDescriptionEn
  else if value = "SAFE_DESCRIPTION_FR" then some .safeDescriptionFr
  else none

@[simp] theorem from_as (field : AlertField) :
    fromDatabaseValue field.asDatabaseValue = some field := by
  cases field <;> decide

end AlertField

inductive Severity where
  | low
  | medium
  | high
  | critical
  deriving DecidableEq, Repr

namespace Severity

def asDatabaseValue : Severity → String
  | .low => "LOW"
  | .medium => "MEDIUM"
  | .high => "HIGH"
  | .critical => "CRITICAL"

def fromDatabaseValue (value : String) : Option Severity :=
  if value = "LOW" then some .low
  else if value = "MEDIUM" then some .medium
  else if value = "HIGH" then some .high
  else if value = "CRITICAL" then some .critical
  else none

@[simp] theorem from_as (severity : Severity) :
    fromDatabaseValue severity.asDatabaseValue = some severity := by
  cases severity <;> decide

/-- The place in the derived order of the variants. -/
def rank : Severity → Nat
  | .low => 0
  | .medium => 1
  | .high => 2
  | .critical => 3

end Severity

/-- A target area is never blank and carries no surrounding white space. -/
structure TargetGeography where
  text : String
  trimmed : trim text = text
  nonblank : text ≠ ""
  deriving DecidableEq

structure EmptyTargetGeography where
  deriving DecidableEq, Repr

def TargetGeography.new (description : String) : Except EmptyTargetGeography TargetGeography :=
  if blank : trim description = "" then .error {}
  else .ok { text := trim description, trimmed := trim_trim description, nonblank := blank }

theorem TargetGeography.new_text (geography : TargetGeography) :
    TargetGeography.new geography.text = .ok geography := by
  obtain ⟨text, trimmed, nonblank⟩ := geography
  simp [TargetGeography.new, trimmed, nonblank]

theorem TargetGeography.douala_trimmed : trim "Douala" = "Douala" := by decide

theorem TargetGeography.douala_nonblank : "Douala" ≠ "" := by decide

structure AlertFieldValue where
  field : AlertField
  value : String
  deriving DecidableEq, Repr

inductive AlertStatus where
  | active
  | cancelled
  deriving DecidableEq, Repr

namespace AlertStatus

def asDatabaseValue : AlertStatus → String
  | .active => "ACTIVE"
  | .cancelled => "CANCELLED"

def fromDatabaseValue (value : String) : Option AlertStatus :=
  if value = "ACTIVE" then some .active
  else if value = "CANCELLED" then some .cancelled
  else none

@[simp] theorem from_as (status : AlertStatus) :
    fromDatabaseValue status.asDatabaseValue = some status := by
  cases status <;> decide

end AlertStatus

inductive AlertEventType where
  | alertCreated
  | alertCancelled
  deriving DecidableEq, Repr

def AlertEventType.asDatabaseValue : AlertEventType → String
  | .alertCreated => "ALERT_CREATED"
  | .alertCancelled => "ALERT_CANCELLED"

structure AlertEvent where
  id : Uuid
  alertId : AlertId
  eventType : AlertEventType
  aggregateVersion : Nat
  deriving DecidableEq, Repr

structure Alert where
  id : AlertId
  caseId : CaseId
  policyId : String
  policyVersion : Nat
  incidentType : IncidentType
  severity : Severity
  visibility : AlertVisibility
  trigger : CaseEventType
  targetGeography : TargetGeography
  status : AlertStatus
  fields : List AlertFieldValue
  version : Nat
  issuedByOrganizationId : Option OrganizationId

namespace Alert

def fieldValue (alert : Alert) (field : AlertField) : Option String :=
  (alert.fields.find? fun value => value.field = field).map (·.value)

/-- French when the locale starts with "fr" in any case, else English, each falling back to the other
and then to the description of the time before there were two. -/
def descriptionForLocale (unicode : UnicodeData) (alert : Alert) (locale : Option String) :
    Option String :=
  let prefersFrench := match locale with
    | some value => startsWith (unicode.toLowercase (trim value)) "fr"
    | none => false
  let (primary, secondary) := if prefersFrench
    then (AlertField.safeDescriptionFr, AlertField.safeDescriptionEn)
    else (AlertField.safeDescriptionEn, AlertField.safeDescriptionFr)
  (alert.fieldValue primary).or ((alert.fieldValue secondary).or (alert.fieldValue .safeDescription))

end Alert

end SafeCameroon
