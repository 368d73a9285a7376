import SafeCameroon.Api.Auth

namespace SafeCameroon.Access.Organizations

open Process Text

def persistenceFailed (requestId : Uuid) : ApiError :=
  { status := 500, code := "ORGANIZATION_PERSISTENCE_FAILED"
    message := "The request could not be saved. Please try again.", requestId }

def notAuthorized (requestId : Uuid) : ApiError :=
  { status := 403, code := "NOT_AUTHORIZED"
    message := "Only a platform admin may manage organizations.", requestId }

def organizationNotFound (requestId : Uuid) : ApiError :=
  { status := 404, code := "ORGANIZATION_NOT_FOUND"
    message := "No organization exists with the given id.", requestId }

def invalidOrganizationName (requestId : Uuid) : ApiError :=
  { status := 400, code := "INVALID_ORGANIZATION_NAME", message := "name cannot be blank."
    requestId }

def requirePlatformAdmin (actor : Actor) (requestId : Uuid) : Handler Unit :=
  match actor with
  | .automated => refuse (notAuthorized requestId)
  | .reviewer reviewerId => do
      match ← findMembership (persistenceFailed requestId) reviewerId with
      | some { role := .platformAdmin, .. } => return ()
      | _ => refuse (notAuthorized requestId)

/-- Commits the organization, its consumer and the link between them one after the other. -/
def saveOrganization (organization : Organization) (consumer : Consumer) (requestId : Uuid) :
    Handler Organization := do
  let _ ← orFail (persistenceFailed requestId) (.createOrganization organization.id)
  let _ ← orFail (persistenceFailed requestId) (.createConsumer consumer)
  let _ ← orFail (persistenceFailed requestId) (.setConsumerId organization.id consumer.id)
  match ← findOrganization (persistenceFailed requestId) organization.id with
  | some organization => return organization
  | none => .fail (.panicked "the organization was just created above")

def createOrganization (verify : String → Option Incidents.VerifiedSession) (fresh : Supply)
    (headers : List (String × Bytes)) (name : String) (requestId : Uuid) : Handler Organization := do
  let actor ← lift (Incidents.Reviewer.actorFromHeaders verify headers requestId)
  requirePlatformAdmin actor requestId
  match Organization.new ⟨fresh 0⟩ name with
  | .error _ => refuse (invalidOrganizationName requestId)
  | .ok organization =>
      match Consumer.new ⟨fresh 1⟩ (trim name) .organization with
      | .error _ => .fail (.panicked "organization name is already validated non-blank above")
      | .ok consumer => saveOrganization organization consumer requestId

def setOrganizationActive (verify : String → Option Incidents.VerifiedSession)
    (headers : List (String × Bytes)) (id : OrganizationId) (isActive : Bool) (requestId : Uuid) :
    Handler Organization := do
  let actor ← lift (Incidents.Reviewer.actorFromHeaders verify headers requestId)
  requirePlatformAdmin actor requestId
  match ← findOrganization (persistenceFailed requestId) id with
  | none => refuse (organizationNotFound requestId)
  | some _ =>
      let _ ← orFail (persistenceFailed requestId) (.setActive id isActive)
      match ← findOrganization (persistenceFailed requestId) id with
      | some organization => return organization
      | none => .fail (.panicked "the organization was just confirmed to exist above")

end SafeCameroon.Access.Organizations
