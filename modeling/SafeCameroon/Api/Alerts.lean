import SafeCameroon.Api.Cases

namespace SafeCameroon.Incidents

open Process Text

def invalidIdempotencyKey (requestId : Uuid) : ApiError :=
  { status := 400, code := "INVALID_IDEMPOTENCY_KEY"
    message := "Idempotency-Key must be between 8 and 256 characters.", requestId }

/-- The trimmed key of the header; none when it is absent, blank or not text. -/
def idempotencyKeyFromHeaders (headers : List (String × Bytes)) (requestId : Uuid) :
    Except ApiError (Option String) :=
  match ((header "idempotency-key" headers).bind headerText).map trim with
  | none => .ok none
  | some key =>
      if key = "" then .ok none
      else if 8 ≤ key.utf8ByteSize ∧ key.utf8ByteSize ≤ 256 then .ok (some key)
      else .error (invalidIdempotencyKey requestId)

namespace Alerts

def alertNotFound (requestId : Uuid) : ApiError :=
  { status := 404, code := "ALERT_NOT_FOUND"
    message := "No alert exists with the given id.", requestId }

def persistenceFailed (requestId : Uuid) : ApiError :=
  { status := 500, code := "ALERT_PERSISTENCE_FAILED"
    message := "The alert could not be saved. Please try again.", requestId }

def reviewerRequired (requestId : Uuid) : ApiError :=
  { status := 403, code := "NOT_AUTHORIZED"
    message := "An authorized reviewer is required to create alerts.", requestId }

def organizationNotTrusted (requestId : Uuid) : ApiError :=
  { status := 403, code := "ORGANIZATION_NOT_TRUSTED_FOR_ALERT_VISIBILITY"
    message := "Your organization is not trusted to issue alerts at this visibility.", requestId }

def otherOrganization (requestId : Uuid) : ApiError :=
  { status := 403, code := "NOT_AUTHORIZED"
    message := "You may not cancel an alert issued by another organization.", requestId }

def permissionRequired (requestId : Uuid) : ApiError :=
  { status := 403, code := "NOT_AUTHORIZED"
    message := "Explicit alert permission is required for this action.", requestId }

def unknownAlertPolicy (requestId : Uuid) : ApiError :=
  { status := 400, code := "UNKNOWN_ALERT_POLICY"
    message := "No alert policy is registered with this id.", requestId }

def invalidTargetGeography (requestId : Uuid) : ApiError :=
  { status := 400, code := "INVALID_TARGET_GEOGRAPHY"
    message := "target_geography cannot be blank.", requestId }

def idempotencyKeyReused (requestId : Uuid) : ApiError :=
  { status := 409, code := "IDEMPOTENCY_KEY_REUSED"
    message := "This Idempotency-Key was already used for an alert.", requestId }

def alertModifiedConcurrently (requestId : Uuid) : ApiError :=
  { status := 409, code := "ALERT_MODIFIED_CONCURRENTLY"
    message := "The alert changed since it was last read. Reload and retry.", requestId }

def creationError (requestId : Uuid) : AlertCreationUseCaseError → ApiError
  | .notAuthorized _ =>
      { status := 403, code := "NOT_AUTHORIZED"
        message := "Only an identified reviewer may create an alert with this visibility.", requestId }
  | .invalidAlert (.caseNotVerified _) =>
      { status := 409, code := "CASE_NOT_VERIFIED"
        message := "The requested alert action is not allowed for this case state.", requestId }
  | .invalidAlert (.incidentTypeMismatch _ _) =>
      { status := 409, code := "INCIDENT_TYPE_MISMATCH"
        message := "The case's incident type does not match the policy's incident type.", requestId }
  | .invalidAlert (.fieldNotAllowedByPolicy _) =>
      { status := 400, code := "FIELD_NOT_ALLOWED_BY_POLICY"
        message := "A supplied field is not on this policy's allowlist.", requestId }
  | .invalidAlert (.duplicateField _) =>
      { status := 400, code := "DUPLICATE_ALERT_FIELD"
        message := "A field was supplied more than once.", requestId }

def cancellationError (requestId : Uuid) : AlertCancellationError → ApiError
  | .notAuthorized _ =>
      { status := 403, code := "NOT_AUTHORIZED"
        message := "Only an identified reviewer may cancel an alert.", requestId }
  | .invalidTransition _ =>
      { status := 409, code := "ALERT_ALREADY_CANCELLED"
        message := "This alert is already cancelled.", requestId }

structure AlertResponse where
  alert : Alert
  canCancel : Bool

def issuingOrganization (actor : Actor) (visibility : AlertVisibility) (requestId : Uuid) :
    Handler (Option OrganizationId) :=
  match actor with
  | .automated => refuse (reviewerRequired requestId)
  | .reviewer reviewerId => do
      let membership ← orFail (persistenceFailed requestId) (.findMembership reviewerId)
      let membership := Cases.membershipOrNone membership
      let organization ← Cases.organizationOf (persistenceFailed requestId) membership
      match authorizeAlertIssuance membership organization visibility with
      | .ok () => return membership.organizationId
      | .error _ => refuse (organizationNotTrusted requestId)

def authorizeCancellationByOrganization (actor : Actor)
    (issuedByOrganizationId : Option OrganizationId) (requestId : Uuid) : Handler Unit :=
  match actor with
  | .automated => return ()
  | .reviewer reviewerId => do
      let membership ← orFail (persistenceFailed requestId) (.findMembership reviewerId)
      match authorizeAlertCancellation (Cases.membershipOrNone membership)
          issuedByOrganizationId with
      | .ok () => return ()
      | .error _ => refuse (otherOrganization requestId)

/-- What decides which alerts a reviewer may read and cancel. -/
structure AlertAccess where
  membership : Membership
  organization : Option Organization
  subscriptions : List Subscription

namespace AlertAccess

def canRead (unicode : UnicodeData) (access : AlertAccess) (alert : Alert) : Bool :=
  decide (access.membership.role = .platformAdmin) ||
    (access.membership.organizationId.isSome &&
      decide (access.membership.organizationId = alert.issuedByOrganizationId)) ||
    access.subscriptions.any fun subscription =>
      (evaluateSubscription unicode subscription alert).matched

def canCancel (unicode : UnicodeData) (access : AlertAccess) (alert : Alert) : Bool :=
  access.canRead unicode alert &&
    (authorizeAlertCancellation access.membership alert.issuedByOrganizationId).toBool &&
    (authorizeAlertIssuance access.membership access.organization alert.visibility).toBool

def response (unicode : UnicodeData) (access : AlertAccess) (alert : Alert) : AlertResponse :=
  { alert, canCancel := access.canCancel unicode alert }

end AlertAccess

/-- The organization of the membership, when it names one; here a missing one is no reason to panic. -/
def accessOrganization (membership : Membership) (requestId : Uuid) :
    Handler (Option Organization) :=
  match membership.organizationId with
  | some id => orFail (persistenceFailed requestId) (.findOrganization id)
  | none => return none

def accessSubscriptions (organization : Option Organization) (requestId : Uuid) :
    Handler (List Subscription) :=
  match (organization.filter (·.isActive)).bind (·.consumerId) with
  | some id => orFail (persistenceFailed requestId) (.findSubscriptionsByConsumer id)
  | none => return []

def alertAccess (actor : Actor) (requestId : Uuid) : Handler AlertAccess := do
  let membership ← OrganizationAccess.membership actor requestId
  let organization ← accessOrganization membership requestId
  let subscriptions ← accessSubscriptions organization requestId
  return { membership, organization, subscriptions }

structure CreateAlertRequest where
  policyId : String
  severity : Severity
  targetGeography : String
  fields : List AlertFieldValue

/-- What a request to create an alert asks for, before anything is read for it. -/
structure CheckedRequest where
  idempotencyKey : Option String
  policy : AlertPolicy
  targetGeography : TargetGeography

def checkRequest (headers : List (String × Bytes)) (request : CreateAlertRequest)
    (requestId : Uuid) : Except ApiError CheckedRequest := do
  let idempotencyKey ← idempotencyKeyFromHeaders headers requestId
  match resolvePolicy request.policyId with
  | none => .error (unknownAlertPolicy requestId)
  | some policy =>
      match TargetGeography.new request.targetGeography with
      | .error _ => .error (invalidTargetGeography requestId)
      | .ok targetGeography => return { idempotencyKey, policy, targetGeography }

def createAlert (verify : String → Option VerifiedSession) (sha256 : String → Bytes)
    (fresh : Supply) (headers : List (String × Bytes)) (caseId : CaseId)
    (request : CreateAlertRequest) (requestId : Uuid) : Handler AlertResponse := do
  let actor ← Reviewer.actorFromHeaders verify headers requestId
  match checkRequest headers request requestId with
  | .error error => refuse error
  | .ok checked =>
      let issuedByOrganizationId ← issuingOrganization actor checked.policy.visibility requestId
      let c ← (← Cases.findById (persistenceFailed requestId) caseId) |> Cases.found requestId
      match createAlertFromCase sha256 fresh c checked.policy request.severity
          checked.targetGeography request.fields actor requestId checked.idempotencyKey
          issuedByOrganizationId with
      | .error error => refuse (creationError requestId error)
      | .ok creation =>
          match ← orFail (persistenceFailed requestId) (.createAlert creation) with
          | .created => return { alert := creation.alert, canCancel := false }
          | .duplicate _ => refuse (idempotencyKeyReused requestId)

def cancel (unicode : UnicodeData) (verify : String → Option VerifiedSession) (fresh : Supply)
    (headers : List (String × Bytes)) (alertId : AlertId) (requestId : Uuid) :
    Handler AlertResponse := do
  let actor ← Reviewer.actorFromHeaders verify headers requestId
  match ← orFail (persistenceFailed requestId) (.findAlert alertId) with
  | none => refuse (alertNotFound requestId)
  | some alert =>
      let access ← alertAccess actor requestId
      if access.canCancel unicode alert then
        authorizeCancellationByOrganization actor alert.issuedByOrganizationId requestId
        match cancelAlert fresh alert actor requestId with
        | .error error => refuse (cancellationError requestId error)
        | .ok (alert, cancellation) =>
            match ← orFail (persistenceFailed requestId) (.cancelAlert alert cancellation) with
            | .cancelled => return access.response unicode alert
            | .conflict => refuse (alertModifiedConcurrently requestId)
      else refuse (permissionRequired requestId)

end Alerts

end SafeCameroon.Incidents
