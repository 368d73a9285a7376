import SafeCameroon.Domain.Alert

namespace SafeCameroon

open Text

/-- A reviewer's standing in the platform; only a platform admin belongs to no organization. -/
inductive Role where
  | platformAdmin
  | orgAdmin
  | member
  deriving DecidableEq, Repr

namespace Role

def asDatabaseValue : Role → String
  | .platformAdmin => "PLATFORM_ADMIN"
  | .orgAdmin => "ORG_ADMIN"
  | .member => "MEMBER"

def fromDatabaseValue (value : String) : Option Role :=
  if value = "PLATFORM_ADMIN" then some .platformAdmin
  else if value = "ORG_ADMIN" then some .orgAdmin
  else if value = "MEMBER" then some .member
  else none

@[simp] theorem from_as (role : Role) : fromDatabaseValue role.asDatabaseValue = some role := by
  cases role <;> decide

end Role

structure Membership where
  role : Role
  organizationId : Option OrganizationId
  deriving DecidableEq, Repr

/-- What authorization reads of an organization: its trust grants and whether it is active. -/
structure Organization where
  id : OrganizationId
  verifiedIncidentTypes : List IncidentType
  verifiedAlertVisibilities : List AlertVisibility
  consumerId : Option ConsumerId
  isActive : Bool
  deriving DecidableEq, Repr

structure EmptyOrganizationName where
  deriving DecidableEq, Repr

def Organization.new (id : OrganizationId) (name : String) :
    Except EmptyOrganizationName Organization :=
  if trim name = "" then .error {}
  else .ok { id, verifiedIncidentTypes := [], verifiedAlertVisibilities := [], consumerId := none
             isActive := true }

def Organization.mayVerify (organization : Organization) (incidentType : IncidentType) : Bool :=
  decide (incidentType ∈ organization.verifiedIncidentTypes)

def Organization.mayIssueAlert (organization : Organization) (visibility : AlertVisibility) : Bool :=
  decide (visibility ∈ organization.verifiedAlertVisibilities)

end SafeCameroon
