import SafeCameroon.Domain.Identifiers

namespace SafeCameroon

inductive IncidentType where
  | missingChild
  | otherProtectionIncident
  deriving DecidableEq, Repr

namespace IncidentType

def asDatabaseValue : IncidentType → String
  | .missingChild => "MISSING_CHILD"
  | .otherProtectionIncident => "OTHER_PROTECTION_INCIDENT"

def fromDatabaseValue (value : String) : Option IncidentType :=
  if value = "MISSING_CHILD" then some .missingChild
  else if value = "OTHER_PROTECTION_INCIDENT" then some .otherProtectionIncident
  else none

@[simp] theorem from_as (type : IncidentType) : fromDatabaseValue type.asDatabaseValue = some type := by
  cases type <;> decide

end IncidentType

inductive CaseStatus where
  | reported
  | underReview
  | verified
  | active
  | resolved
  | cancelled
  | rejected
  deriving DecidableEq, Repr

namespace CaseStatus

def asDatabaseValue : CaseStatus → String
  | .reported => "REPORTED"
  | .underReview => "UNDER_REVIEW"
  | .verified => "VERIFIED"
  | .active => "ACTIVE"
  | .resolved => "RESOLVED"
  | .cancelled => "CANCELLED"
  | .rejected => "REJECTED"

def fromDatabaseValue (value : String) : Option CaseStatus :=
  if value = "REPORTED" then some .reported
  else if value = "UNDER_REVIEW" then some .underReview
  else if value = "VERIFIED" then some .verified
  else if value = "ACTIVE" then some .active
  else if value = "RESOLVED" then some .resolved
  else if value = "CANCELLED" then some .cancelled
  else if value = "REJECTED" then some .rejected
  else none

@[simp] theorem from_as (status : CaseStatus) :
    fromDatabaseValue status.asDatabaseValue = some status := by
  cases status <;> decide

end CaseStatus

inductive CaseEventType where
  | caseCreated
  | caseReportLinked
  | caseUnderReview
  | caseVerified
  | caseActivated
  | caseResolved
  | caseCancelled
  | caseRejected
  deriving DecidableEq, Repr

namespace CaseEventType

def asDatabaseValue : CaseEventType → String
  | .caseCreated => "CASE_CREATED"
  | .caseReportLinked => "CASE_REPORT_LINKED"
  | .caseUnderReview => "CASE_UNDER_REVIEW"
  | .caseVerified => "CASE_VERIFIED"
  | .caseActivated => "CASE_ACTIVATED"
  | .caseResolved => "CASE_RESOLVED"
  | .caseCancelled => "CASE_CANCELLED"
  | .caseRejected => "CASE_REJECTED"

def fromDatabaseValue (value : String) : Option CaseEventType :=
  if value = "CASE_CREATED" then some .caseCreated
  else if value = "CASE_REPORT_LINKED" then some .caseReportLinked
  else if value = "CASE_UNDER_REVIEW" then some .caseUnderReview
  else if value = "CASE_VERIFIED" then some .caseVerified
  else if value = "CASE_ACTIVATED" then some .caseActivated
  else if value = "CASE_RESOLVED" then some .caseResolved
  else if value = "CASE_CANCELLED" then some .caseCancelled
  else if value = "CASE_REJECTED" then some .caseRejected
  else none

@[simp] theorem from_as (type : CaseEventType) :
    fromDatabaseValue type.asDatabaseValue = some type := by
  cases type <;> decide

end CaseEventType

structure Case where
  id : CaseId
  incidentType : IncidentType
  status : CaseStatus
  reportIds : List ReportId
  version : Nat
  deriving DecidableEq, Repr

structure CaseEvent where
  id : Uuid
  caseId : CaseId
  eventType : CaseEventType
  aggregateVersion : Nat
  deriving DecidableEq, Repr

structure TransitionError where
  before : CaseStatus
  after : CaseStatus
  deriving DecidableEq, Repr

structure DuplicateReportLink where
  caseId : CaseId
  reportId : ReportId
  deriving DecidableEq, Repr

def isAllowedTransition (before after : CaseStatus) : Bool :=
  match before, after with
  | .reported, .underReview => true
  | .underReview, .verified => true
  | .underReview, .rejected => true
  | .verified, .active => true
  | .verified, .cancelled => true
  | .active, .resolved => true
  | .active, .cancelled => true
  | _, _ => false

/-- The event of entering a status. No transition enters `reported`, for which the source has an
`unreachable!`; the model answers with the creation event there. -/
def eventFor : CaseStatus → CaseEventType
  | .underReview => .caseUnderReview
  | .verified => .caseVerified
  | .active => .caseActivated
  | .resolved => .caseResolved
  | .cancelled => .caseCancelled
  | .rejected => .caseRejected
  | .reported => .caseCreated

namespace Case

def event (c : Case) (id : Uuid) (eventType : CaseEventType) : CaseEvent :=
  { id, caseId := c.id, eventType, aggregateVersion := c.version }

def create (id : CaseId) (eventId : Uuid) (incidentType : IncidentType) (firstReport : ReportId) :
    Case × CaseEvent :=
  let c : Case := { id, incidentType, status := .reported, reportIds := [firstReport], version := 1 }
  (c, c.event eventId .caseCreated)

/-- Links further evidence; the status stays what it was. -/
def linkReport (c : Case) (eventId : Uuid) (reportId : ReportId) :
    Except DuplicateReportLink (Case × CaseEvent) :=
  if reportId ∈ c.reportIds then .error { caseId := c.id, reportId }
  else
    let c := { c with reportIds := c.reportIds ++ [reportId], version := c.version + 1 }
    .ok (c, c.event eventId .caseReportLinked)

def transitionTo (c : Case) (eventId : Uuid) (next : CaseStatus) :
    Except TransitionError (Case × CaseEvent) :=
  if isAllowedTransition c.status next then
    let c := { c with status := next, version := c.version + 1 }
    .ok (c, c.event eventId (eventFor next))
  else .error { before := c.status, after := next }

end Case

end SafeCameroon
