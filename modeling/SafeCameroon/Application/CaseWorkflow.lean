import SafeCameroon.Domain.Case

namespace SafeCameroon

/-- Who performs an action. An automated actor has no identity. -/
inductive Actor where
  | reviewer (id : Uuid)
  | automated
  deriving DecidableEq, Repr

namespace Actor

def asDatabaseValue : Actor → String
  | .reviewer _ => "REVIEWER"
  | .automated => "AUTOMATED"

def actorId : Actor → Option Uuid
  | .reviewer id => some id
  | .automated => none

end Actor

structure AuthorizationError where
  attemptedStatus : CaseStatus
  deriving DecidableEq, Repr

/-- Only starting review may happen without an identified reviewer. -/
def authorizeCaseTransition (actor : Actor) (after : CaseStatus) : Except AuthorizationError Unit :=
  match actor, after with
  | _, .underReview => .ok ()
  | .reviewer _, _ => .ok ()
  | .automated, attemptedStatus => .error { attemptedStatus }

inductive CaseReviewError where
  | notAuthorized (error : AuthorizationError)
  | invalidTransition (error : TransitionError)
  deriving DecidableEq, Repr

structure CaseCreation where
  case : Case
  event : CaseEvent
  actor : Actor
  auditEventId : Uuid
  outboxEventId : Uuid
  requestId : Uuid
  deriving DecidableEq, Repr

def createCaseFromReport (fresh : Supply) (incidentType : IncidentType) (reportId : ReportId)
    (actor : Actor) (requestId : Uuid) : CaseCreation :=
  let (c, event) := Case.create ⟨fresh 0⟩ (fresh 1) incidentType reportId
  { case := c, event, actor, auditEventId := fresh 2, outboxEventId := fresh 3, requestId }

def caseCreatedEventPayload (creation : CaseCreation) : Json :=
  .object
    [("case_id", .uuid creation.case.id.uuid),
     ("incident_type", .string creation.case.incidentType.asDatabaseValue),
     ("report_id", .optional (fun report => .uuid report.uuid) creation.case.reportIds.head?)]

structure CaseReportLink where
  event : CaseEvent
  reportId : ReportId
  actor : Actor
  auditEventId : Uuid
  outboxEventId : Uuid
  requestId : Uuid
  deriving DecidableEq, Repr

def linkReportToCase (fresh : Supply) (c : Case) (reportId : ReportId) (actor : Actor)
    (requestId : Uuid) : Except DuplicateReportLink (Case × CaseReportLink) := do
  let (c, event) ← c.linkReport (fresh 0) reportId
  return (c, { event, reportId, actor, auditEventId := fresh 1, outboxEventId := fresh 2, requestId })

def caseReportLinkedEventPayload (caseId : CaseId) (link : CaseReportLink) : Json :=
  .object [("case_id", .uuid caseId.uuid), ("report_id", .uuid link.reportId.uuid)]

structure CaseReview where
  event : CaseEvent
  actor : Actor
  auditEventId : Uuid
  outboxEventId : Uuid
  requestId : Uuid
  deriving DecidableEq, Repr

def reviewCase (fresh : Supply) (c : Case) (actor : Actor) (after : CaseStatus) (requestId : Uuid) :
    Except CaseReviewError (Case × CaseReview) := do
  (authorizeCaseTransition actor after).mapError .notAuthorized
  let (c, event) ← (c.transitionTo (fresh 0) after).mapError .invalidTransition
  return (c, { event, actor, auditEventId := fresh 1, outboxEventId := fresh 2, requestId })

def caseStatusChangedEventPayload (c : Case) (review : CaseReview) : Json :=
  .object
    [("case_id", .uuid c.id.uuid),
     ("status", .string c.status.asDatabaseValue),
     ("aggregate_version", .natural review.event.aggregateVersion)]

end SafeCameroon
