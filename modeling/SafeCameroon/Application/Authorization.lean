import SafeCameroon.Application.CaseWorkflow
import SafeCameroon.Domain.Organization

namespace SafeCameroon

inductive Capability where
  | report
  | viewCase
  | reviewReport
  | verifyCase
  | createAlert
  | manageSubscriptions
  | viewAudit
  | manageChannelProvider
  deriving DecidableEq, Repr

structure AuthorizationDenied where
  actor : Actor
  capability : Capability
  deriving DecidableEq, Repr

/-- Anyone may report; everything else takes an identified reviewer. -/
def authorize (actor : Actor) (capability : Capability) : Except AuthorizationDenied Unit :=
  if capability = .report then .ok ()
  else match actor with
    | .reviewer _ => .ok ()
    | .automated => .error { actor, capability }

structure MembershipGrantDenied where
  deriving DecidableEq, Repr

/-- The first reviewer needs nobody's leave. A platform admin may register anyone, and an organization's
admin a member of that organization. -/
def authorizeMembershipGrant (granter : Option Membership) (existingReviewerCount : Nat)
    (targetRole : Role) (targetOrganizationId : Option OrganizationId) :
    Except MembershipGrantDenied Unit :=
  if existingReviewerCount = 0 then .ok ()
  else match granter with
    | some { role := .platformAdmin, .. } => .ok ()
    | some { role := .orgAdmin, organizationId := some granterOrg } =>
        if targetRole = .member ∧ targetOrganizationId = some granterOrg then .ok () else .error {}
    | _ => .error {}

structure InvalidMembershipShape where
  deriving DecidableEq, Repr

def validateMembershipShape (role : Role) (organizationId : Option OrganizationId) :
    Except InvalidMembershipShape Unit :=
  let valid := match role with
    | .platformAdmin => organizationId.isNone
    | .orgAdmin | .member => organizationId.isSome
  if valid then .ok () else .error {}

structure CaseVerificationNotAuthorized where
  deriving DecidableEq, Repr

/-- A platform admin, or a reviewer of an active organization that is trusted with the incident
type. -/
def authorizeCaseVerification (membership : Membership) (organization : Option Organization)
    (incidentType : IncidentType) : Except CaseVerificationNotAuthorized Unit :=
  if membership.role = .platformAdmin then .ok ()
  else if organization.any fun organization =>
      organization.isActive && organization.mayVerify incidentType then .ok ()
  else .error {}

structure AlertIssuanceNotAuthorized where
  deriving DecidableEq, Repr

/-- A platform admin, or a reviewer of an active organization that is trusted with the visibility. -/
def authorizeAlertIssuance (membership : Membership) (organization : Option Organization)
    (visibility : AlertVisibility) : Except AlertIssuanceNotAuthorized Unit :=
  if membership.role = .platformAdmin then .ok ()
  else if organization.any fun organization =>
      organization.isActive && organization.mayIssueAlert visibility then .ok ()
  else .error {}

structure ConsumerManagementNotAuthorized where
  deriving DecidableEq, Repr

/-- A consumer that no organization owns may be managed by any reviewer. -/
def authorizeConsumerManagement (membership : Membership)
    (owningOrganizationId : Option OrganizationId) : Except ConsumerManagementNotAuthorized Unit :=
  if membership.role = .platformAdmin then .ok ()
  else match owningOrganizationId with
    | none => .ok ()
    | some owner => if membership.organizationId = some owner then .ok () else .error {}

structure AlertCancellationNotAuthorized where
  deriving DecidableEq, Repr

/-- A platform admin, or a reviewer of the organization that issued the alert, or any reviewer of an
alert that no organization issued. -/
def authorizeAlertCancellation (membership : Membership)
    (issuedByOrganizationId : Option OrganizationId) : Except AlertCancellationNotAuthorized Unit :=
  if membership.role = .platformAdmin then .ok ()
  else match issuedByOrganizationId with
    | none => .ok ()
    | some issuer => if membership.organizationId = some issuer then .ok () else .error {}

end SafeCameroon
