import SafeCameroon.Api.OrganizationAccess

namespace SafeCameroon.Incidents.Cases

open Process

def caseNotFound (requestId : Uuid) : ApiError :=
  { status := 404, code := "CASE_NOT_FOUND", message := "No case exists with the given id.", requestId }

def persistenceFailed (requestId : Uuid) : ApiError :=
  { status := 500, code := "CASE_PERSISTENCE_FAILED"
    message := "The case could not be saved. Please try again.", requestId }

def reportAlreadyLinked (requestId : Uuid) : ApiError :=
  { status := 409, code := "REPORT_ALREADY_LINKED"
    message := "This report is already linked to a case.", requestId }

def reportAlreadyLinkedHere (requestId : Uuid) : ApiError :=
  { status := 409, code := "REPORT_ALREADY_LINKED"
    message := "This report is already linked to this case.", requestId }

def caseModifiedConcurrently (requestId : Uuid) : ApiError :=
  { status := 409, code := "CASE_MODIFIED_CONCURRENTLY"
    message := "The case changed since it was last read. Reload and retry.", requestId }

def reviewError (requestId : Uuid) : CaseReviewError → ApiError
  | .notAuthorized _ =>
      { status := 403, code := "NOT_AUTHORIZED"
        message := "Only an identified reviewer may make this change.", requestId }
  | .invalidTransition _ =>
      { status := 409, code := "CASE_TRANSITION_NOT_ALLOWED"
        message := "The case cannot move to the requested status from its current state.", requestId }

def organizationNotTrusted (requestId : Uuid) : ApiError :=
  { status := 403, code := "ORGANIZATION_NOT_TRUSTED_FOR_INCIDENT_TYPE"
    message := "Your organization is not trusted to verify this incident type.", requestId }

structure CaseResponse where
  caseId : Uuid
  incidentType : IncidentType
  status : CaseStatus
  reportIds : List Uuid
  version : Nat
  deriving DecidableEq, Repr

def caseResponse (c : Case) : CaseResponse :=
  { caseId := c.id.uuid, incidentType := c.incidentType, status := c.status
    reportIds := c.reportIds.map (·.uuid), version := c.version }

/-- The two queries of `find_by_id`; what other requests commit between them is seen by the second. -/
def findById (error : ApiError) (caseId : CaseId) : Handler (Option Case) := do
  match ← orFail error (.findCaseRow caseId) with
  | none => return none
  | some row =>
      let reportIds ← orFail error (.findCaseReports caseId)
      match PostgresCaseRepository.reconstitute row reportIds with
      | .ok c => return some c
      | .error (.panic message) => .fail (.panicked message)
      | .error .database => refuse error

def found (requestId : Uuid) : Option Case → Handler Case
  | some c => return c
  | none => refuse (caseNotFound requestId)

def createCase (verify : String → Option VerifiedSession) (fresh : Supply)
    (headers : List (String × Bytes)) (reportId : ReportId) (incidentType : IncidentType)
    (requestId : Uuid) : Handler CaseResponse := do
  let actor ← Reviewer.actorFromHeaders verify headers requestId
  let creation := createCaseFromReport fresh incidentType reportId actor requestId
  match ← orFail (persistenceFailed requestId) (.createCase creation) with
  | .created => return caseResponse creation.case
  | .reportAlreadyLinked => refuse (reportAlreadyLinked requestId)

def linkReport (verify : String → Option VerifiedSession) (fresh : Supply)
    (headers : List (String × Bytes)) (caseId : CaseId) (reportId : ReportId) (requestId : Uuid) :
    Handler CaseResponse := do
  let actor ← Reviewer.actorFromHeaders verify headers requestId
  let c ← (← findById (persistenceFailed requestId) caseId) |> found requestId
  match linkReportToCase fresh c reportId actor requestId with
  | .error _ => refuse (reportAlreadyLinkedHere requestId)
  | .ok (c, link) =>
      match ← orFail (persistenceFailed requestId) (.linkReport c link) with
      | .linked => return caseResponse c
      | .reportAlreadyLinked => refuse (reportAlreadyLinked requestId)
      | .conflict => refuse (caseModifiedConcurrently requestId)

def transitionCase (fresh : Supply) (caseId : CaseId) (actor : Actor) (after : CaseStatus)
    (requestId : Uuid) : Handler CaseResponse := do
  let c ← (← findById (persistenceFailed requestId) caseId) |> found requestId
  match reviewCase fresh c actor after requestId with
  | .error error => refuse (reviewError requestId error)
  | .ok (c, review) =>
      match ← orFail (persistenceFailed requestId) (.applyReview c review) with
      | .applied => return caseResponse c
      | .conflict => refuse (caseModifiedConcurrently requestId)

def createCaseEvent (verify : String → Option VerifiedSession) (fresh : Supply)
    (headers : List (String × Bytes)) (caseId : CaseId) (after : CaseStatus) (requestId : Uuid) :
    Handler CaseResponse := do
  let actor ← Reviewer.actorFromHeaders verify headers requestId
  transitionCase fresh caseId actor after requestId

/-- A reviewer who has no membership counts as a member of no organization. -/
def membershipOrNone (membership : Option Membership) : Membership :=
  membership.getD { role := .member, organizationId := none }

def organizationOf (error : ApiError) (membership : Membership) : Handler (Option Organization) :=
  match membership.organizationId with
  | none => return none
  | some organizationId => do
      match ← orFail error (.findOrganization organizationId) with
      | some organization => return some organization
      | none => .fail (.panicked "a reviewer's membership never references a deleted organization")

def authorizeVerificationByOrganization (actor : Actor) (incidentType : IncidentType)
    (requestId : Uuid) : Handler Unit :=
  match actor with
  | .automated => return ()
  | .reviewer reviewerId => do
      let membership ← orFail (persistenceFailed requestId) (.findMembership reviewerId)
      let membership := membershipOrNone membership
      let organization ← organizationOf (persistenceFailed requestId) membership
      match authorizeCaseVerification membership organization incidentType with
      | .ok () => return ()
      | .error _ => refuse (organizationNotTrusted requestId)

/-- Reads the case once for its incident type, and once more for the transition. -/
def verifyCase (verify : String → Option VerifiedSession) (fresh : Supply)
    (headers : List (String × Bytes)) (caseId : CaseId) (requestId : Uuid) :
    Handler CaseResponse := do
  let actor ← Reviewer.actorFromHeaders verify headers requestId
  let c ← (← findById (persistenceFailed requestId) caseId) |> found requestId
  authorizeVerificationByOrganization actor c.incidentType requestId
  transitionCase fresh caseId actor .verified requestId

def resolveCase (verify : String → Option VerifiedSession) (fresh : Supply)
    (headers : List (String × Bytes)) (caseId : CaseId) (requestId : Uuid) :
    Handler CaseResponse := do
  let actor ← Reviewer.actorFromHeaders verify headers requestId
  transitionCase fresh caseId actor .resolved requestId

end SafeCameroon.Incidents.Cases
