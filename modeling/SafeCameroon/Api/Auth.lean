import SafeCameroon.Access.Calls

namespace SafeCameroon.Access

open Process Text

def findMembership (error : ApiError) (reviewerId : Uuid) : Handler (Option Membership) :=
  orFail error (.incident (.findMembership reviewerId))

def findOrganization (error : ApiError) (id : OrganizationId) : Handler (Option Organization) :=
  orFail error (.incident (.findOrganization id))

namespace Auth

def persistenceFailed (requestId : Uuid) : ApiError :=
  { status := 500, code := "REVIEWER_PERSISTENCE_FAILED"
    message := "The request could not be saved. Please try again.", requestId }

def notAuthorized (requestId : Uuid) : ApiError :=
  { status := 403, code := "NOT_AUTHORIZED"
    message := "You are not authorized to register a reviewer with this role/organization."
    requestId }

def missingRole (requestId : Uuid) : ApiError :=
  { status := 400, code := "MISSING_ROLE", message := "role is required.", requestId }

def invalidMembershipShape (requestId : Uuid) : ApiError :=
  { status := 400, code := "INVALID_MEMBERSHIP_SHAPE"
    message := "PlatformAdmin must have no organization_id; OrgAdmin and Member must each have one."
    requestId }

def organizationNotFound (requestId : Uuid) : ApiError :=
  { status := 400, code := "ORGANIZATION_NOT_FOUND"
    message := "No organization exists with the given id.", requestId }

def organizationInactive (requestId : Uuid) : ApiError :=
  { status := 409, code := "ORGANIZATION_INACTIVE"
    message := "This organization is deactivated and cannot register new members.", requestId }

def invalidEmail (requestId : Uuid) : ApiError :=
  { status := 400, code := "INVALID_EMAIL", message := "email must be a non-blank address."
    requestId }

def emailAlreadyRegistered (requestId : Uuid) : ApiError :=
  { status := 409, code := "EMAIL_ALREADY_REGISTERED"
    message := "An account with this email already exists.", requestId }

def invalidGoogleToken (requestId : Uuid) : ApiError :=
  { status := 401, code := "INVALID_GOOGLE_TOKEN", message := "Google could not verify this sign-in."
    requestId }

def reviewerNotRegistered (requestId : Uuid) : ApiError :=
  { status := 403, code := "REVIEWER_NOT_REGISTERED"
    message := "This Google account is not registered as a reviewer.", requestId }

structure RegisterRequest where
  email : String
  role : Option Role
  organizationId : Option OrganizationId

structure RegisterResponse where
  reviewerId : Uuid
  email : String
  role : Role
  organizationId : Option OrganizationId
  deriving DecidableEq, Repr

/-- The role and organization that a registration is for; the first reviewer becomes a platform admin
whatever was asked for. -/
def requestedMembership (existingReviewerCount : Nat) (request : RegisterRequest)
    (requestId : Uuid) : Except ApiError (Role × Option OrganizationId) :=
  if existingReviewerCount = 0 then .ok (.platformAdmin, none)
  else match request.role with
    | none => .error (missingRole requestId)
    | some role =>
        match validateMembershipShape role request.organizationId with
        | .error _ => .error (invalidMembershipShape requestId)
        | .ok () => .ok (role, request.organizationId)

def granterMembership (actor : Actor) (requestId : Uuid) : Handler (Option Membership) :=
  match actor with
  | .reviewer reviewerId => findMembership (persistenceFailed requestId) reviewerId
  | .automated => return none

/-- An organization that takes new members is there and active. -/
def checkOrganization (organizationId : Option OrganizationId) (requestId : Uuid) : Handler Unit :=
  match organizationId with
  | none => return ()
  | some id => do
      match ← findOrganization (persistenceFailed requestId) id with
      | none => refuse (organizationNotFound requestId)
      | some organization =>
          if organization.isActive then return () else refuse (organizationInactive requestId)

def validEmail (email : String) : Bool := decide (email ≠ "") && email.toList.contains '@'

/-- Commits the reviewer, the membership and the audit row one after the other. The invitation that is
mailed afterwards changes nothing of the answer. -/
def saveReviewer (fresh : Supply) (actor : Actor) (email : String) (role : Role)
    (organizationId : Option OrganizationId) (requestId : Uuid) : Handler RegisterResponse := do
  let reviewerId := fresh 0
  match ← orFail (persistenceFailed requestId) (.createReviewer reviewerId email) with
  | .emailAlreadyRegistered => refuse (emailAlreadyRegistered requestId)
  | .created =>
      let _ ← orFail (persistenceFailed requestId) (.addMembership reviewerId role organizationId)
      let _ ← orFail (persistenceFailed requestId) (.recordReviewerAudit (fresh 1) actor
        "REVIEWER_REGISTERED" (some reviewerId) requestId)
      return { reviewerId, email, role, organizationId }

def register (verify : String → Option Incidents.VerifiedSession) (fresh : Supply)
    (headers : List (String × Bytes)) (request : RegisterRequest) (requestId : Uuid) :
    Handler RegisterResponse := do
  let actor ← lift (Incidents.Reviewer.actorFromHeaders verify headers requestId)
  let existingReviewerCount ← orFail (persistenceFailed requestId) .countReviewers
  match requestedMembership existingReviewerCount request requestId with
  | .error error => refuse error
  | .ok (role, organizationId) =>
      let granter ← granterMembership actor requestId
      match authorizeMembershipGrant granter existingReviewerCount role organizationId with
      | .error _ => refuse (notAuthorized requestId)
      | .ok () =>
          checkOrganization organizationId requestId
          if validEmail (trim request.email) then
            saveReviewer fresh actor (trim request.email) role organizationId requestId
          else refuse (invalidEmail requestId)

structure LoginResponse where
  reviewerId : Uuid
  email : String
  role : Role
  organizationId : Option OrganizationId
  deriving DecidableEq, Repr

def everyReviewerHasMembership : String :=
  "every registered reviewer is given a membership at registration time"

/-- `verifyIdToken` is what Google says of a token: the email it belongs to, if it is valid. -/
def googleLogin (unicode : UnicodeData) (verifyIdToken : String → Option String) (fresh : Supply)
    (headers : List (String × Bytes)) (idToken : String) (requestId : Uuid) :
    Handler LoginResponse := do
  lift (Incidents.Reports.enforceRateLimit .reviewerLoginAttempt headers requestId)
  match verifyIdToken idToken with
  | none => refuse (invalidGoogleToken requestId)
  | some identity =>
      let email := unicode.toLowercase (trim identity)
      match ← orFail (persistenceFailed requestId) (.findReviewerByEmail email) with
      | none =>
          let _ ← orFail (persistenceFailed requestId) (.recordReviewerAudit (fresh 0) .automated
            "REVIEWER_LOGIN_FAILED" none requestId)
          refuse (reviewerNotRegistered requestId)
      | some reviewerId =>
          let _ ← orFail (persistenceFailed requestId) (.recordReviewerAudit (fresh 0)
            (.reviewer reviewerId) "REVIEWER_LOGIN_SUCCEEDED" (some reviewerId) requestId)
          match ← findMembership (persistenceFailed requestId) reviewerId with
          | none => .fail (.panicked everyReviewerHasMembership)
          | some membership => return { reviewerId, email, role := membership.role
                                        organizationId := membership.organizationId }

end Auth

end SafeCameroon.Access
