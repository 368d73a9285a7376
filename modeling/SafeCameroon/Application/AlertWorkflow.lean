import SafeCameroon.Application.CaseWorkflow
import SafeCameroon.Domain.AlertPolicy

namespace SafeCameroon

structure AlertAuthorizationError where
  visibility : AlertVisibility
  deriving DecidableEq, Repr

namespace AlertWorkflow

/-- What reaches an uncontrolled audience needs an identified reviewer. -/
def authorizeAlertAction (actor : Actor) (visibility : AlertVisibility) :
    Except AlertAuthorizationError Unit :=
  if visibility.admitsInternalOnlyFields then .ok ()
  else match actor with
    | .reviewer _ => .ok ()
    | .automated => .error { visibility }

def authorizeAlertCancellation (actor : Actor) (visibility : AlertVisibility) :
    Except AlertAuthorizationError Unit :=
  match actor with
  | .reviewer _ => .ok ()
  | .automated => .error { visibility }

end AlertWorkflow

def resolvePolicy (policyId : String) : Option AlertPolicy :=
  if policyId = "MISSING_CHILD_COMMUNITY" then some .missingChildCommunityV1 else none

inductive AlertCreationUseCaseError where
  | notAuthorized (error : AlertAuthorizationError)
  | invalidAlert (error : AlertCreationError)
  deriving DecidableEq, Repr

/-- An alert with everything its insertion writes. -/
structure AlertCreation where
  alert : Alert
  event : AlertEvent
  actor : Actor
  auditEventId : Uuid
  outboxEventId : Uuid
  requestId : Uuid
  idempotencyKeyHash : Option (List UInt8)

/-- Creates an alert; `sha256` is the digest of the key's UTF-8 bytes. -/
def createAlertFromCase (sha256 : String → List UInt8) (fresh : Supply) (c : Case)
    (policy : AlertPolicy) (severity : Severity) (targetGeography : TargetGeography)
    (fields : List AlertFieldValue) (actor : Actor) (requestId : Uuid)
    (idempotencyKey : Option String) (issuedByOrganizationId : Option OrganizationId) :
    Except AlertCreationUseCaseError AlertCreation := do
  (AlertWorkflow.authorizeAlertAction actor policy.visibility).mapError .notAuthorized
  let (alert, event) ← (Alert.createFromCase fresh c policy severity targetGeography fields
    issuedByOrganizationId).mapError .invalidAlert
  return { alert, event, actor, auditEventId := fresh 2, outboxEventId := fresh 3, requestId
           idempotencyKeyHash := idempotencyKey.map sha256 }

def alertCreatedEventPayload (creation : AlertCreation) : Json :=
  .object
    [("alert_id", .uuid creation.alert.id.uuid),
     ("case_id", .uuid creation.alert.caseId.uuid),
     ("policy_id", .string creation.alert.policyId),
     ("policy_version", .natural creation.alert.policyVersion),
     ("visibility", .string creation.alert.visibility.asDatabaseValue)]

inductive AlertCancellationError where
  | notAuthorized (error : AlertAuthorizationError)
  | invalidTransition (error : AlertTransitionError)
  deriving DecidableEq, Repr

structure AlertCancellation where
  event : AlertEvent
  actor : Actor
  auditEventId : Uuid
  outboxEventId : Uuid
  requestId : Uuid

def cancelAlert (fresh : Supply) (alert : Alert) (actor : Actor) (requestId : Uuid) :
    Except AlertCancellationError (Alert × AlertCancellation) := do
  (AlertWorkflow.authorizeAlertCancellation actor alert.visibility).mapError .notAuthorized
  let (alert, event) ← (alert.cancel fresh).mapError .invalidTransition
  return (alert, { event, actor, auditEventId := fresh 1, outboxEventId := fresh 2, requestId })

def alertCancelledEventPayload (alert : Alert) (cancellation : AlertCancellation) : Json :=
  .object
    [("alert_id", .uuid alert.id.uuid),
     ("case_id", .uuid alert.caseId.uuid),
     ("aggregate_version", .natural cancellation.event.aggregateVersion)]

end SafeCameroon
