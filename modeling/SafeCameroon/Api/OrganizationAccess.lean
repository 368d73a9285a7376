import SafeCameroon.Api.Request
import SafeCameroon.Application.Authorization
import SafeCameroon.Incidents.Calls

namespace SafeCameroon.Incidents

open Process

abbrev Handler := Proc incidentInterface HandlerError

/-- A repository call whose error becomes the given response; a panic answers nothing. -/
def orFail (error : ApiError) (call : Call) : Handler call.Res :=
  Proc.perform (I := incidentInterface) call fun
    | .database => .api error
    | .panic message => .panicked message

def refuse {α : Type} (error : ApiError) : Handler α := .fail (.api error)

/-- What the issuer of session tokens finds a valid token to say. -/
structure VerifiedSession where
  reviewerId : Uuid
  issuedAt : Nat
  deriving DecidableEq, Repr

namespace Reviewer

def invalidAuthorizationHeader (requestId : Uuid) : ApiError :=
  { status := 401, code := "INVALID_AUTHORIZATION_HEADER"
    message := "Authorization must be a Bearer session token.", requestId }

def invalidOrExpiredSession (requestId : Uuid) : ApiError :=
  { status := 401, code := "INVALID_OR_EXPIRED_SESSION"
    message := "The session token is invalid or has expired.", requestId }

def sessionRevocationCheckFailed (requestId : Uuid) : ApiError :=
  { status := 500, code := "SESSION_REVOCATION_CHECK_FAILED"
    message := "Could not verify the session. Please try again.", requestId }

def bearerToken (value : String) : Option String :=
  if "Bearer ".toList.isPrefixOf value.toList then some (String.ofList (value.toList.drop 7)) else none

/-- Nobody without an `Authorization` header is a reviewer, and nobody with a bad one is let through. -/
def actorFromHeaders (verify : String → Option VerifiedSession) (headers : List (String × Bytes))
    (requestId : Uuid) : Handler Actor :=
  match header "authorization" headers with
  | none => return .automated
  | some value =>
      match (headerText value).bind bearerToken with
      | none => refuse (invalidAuthorizationHeader requestId)
      | some token =>
          match verify token with
          | none => refuse (invalidOrExpiredSession requestId)
          | some verified => do
              let revoked ← orFail (sessionRevocationCheckFailed requestId)
                (.isSessionRevoked verified.reviewerId verified.issuedAt)
              if revoked then refuse (invalidOrExpiredSession requestId)
              else return .reviewer verified.reviewerId

end Reviewer

inductive Method where
  | get
  | post
  deriving DecidableEq, Repr

namespace OrganizationAccess

def denied (requestId : Uuid) : ApiError :=
  { status := 403, code := "NOT_AUTHORIZED"
    message := "This operation requires platform administrator access.", requestId }

def authorizationLookupFailed (requestId : Uuid) : ApiError :=
  { status := 500, code := "AUTHORIZATION_LOOKUP_FAILED"
    message := "Could not verify access. Please try again.", requestId }

def membership (actor : Actor) (requestId : Uuid) : Handler Membership :=
  match actor with
  | .automated => refuse (denied requestId)
  | .reviewer id => do
      match ← orFail (authorizationLookupFailed requestId) (.findMembership id) with
      | some membership => return membership
      | none => refuse (denied requestId)

def startsWith (start path : String) : Bool := start.toList.isPrefixOf path.toList

def endsWith (ending path : String) : Bool := ending.toList.isSuffixOf path.toList

section Routes

variable (head segment tail : String)

theorem startsWith_iff (start path : String) :
    startsWith start path = true ↔ start.toList <+: path.toList := by
  simp [startsWith]

theorem endsWith_iff (ending path : String) :
    endsWith ending path = true ↔ ending.toList <:+ path.toList := by
  simp [endsWith]

/-- A route with an id in it starts as its first part and ends as its last one. -/
@[simp] theorem startsWith_route (start : String) (same : startsWith start head = true) :
    startsWith start (head ++ segment ++ tail) = true := by
  rw [startsWith_iff] at same ⊢
  rw [String.append_assoc, String.toList_append]
  exact same.trans (List.prefix_append _ _)

@[simp] theorem startsWith_route_other (start : String) (shorter : startsWith start head = false)
    (longer : startsWith head start = false) :
    startsWith start (head ++ segment ++ tail) = false := by
  rw [Bool.eq_false_iff, Ne, startsWith_iff] at shorter longer ⊢
  rw [String.append_assoc, String.toList_append]
  intro leading
  rcases List.prefix_or_prefix_of_prefix leading (List.prefix_append _ _) with first | second
  · exact shorter first
  · exact longer second

@[simp] theorem endsWith_route (ending : String) (same : endsWith ending tail = true) :
    endsWith ending (head ++ segment ++ tail) = true := by
  rw [endsWith_iff] at same ⊢
  rw [String.toList_append]
  exact same.trans (List.suffix_append _ _)

@[simp] theorem endsWith_route_other (ending : String) (shorter : endsWith ending tail = false)
    (longer : endsWith tail ending = false) : endsWith ending (head ++ segment ++ tail) = false := by
  rw [Bool.eq_false_iff, Ne, endsWith_iff] at shorter longer ⊢
  rw [String.toList_append]
  intro suffix
  rcases List.suffix_or_suffix_of_suffix suffix (List.suffix_append _ _) with first | second
  · exact shorter first
  · exact longer second

theorem route_ne (path : String) (other : endsWith tail path = false) :
    head ++ segment ++ tail ≠ path := by
  intro same
  have ends := endsWith_route head segment tail tail ((endsWith_iff tail tail).mpr List.suffix_rfl)
  rw [same, other] at ends
  cases ends

theorem route_ne_start (path : String) (other : startsWith head path = false) :
    head ++ segment ++ tail ≠ path := by
  intro same
  have starts := startsWith_route head segment tail head
    ((startsWith_iff head head).mpr List.prefix_rfl)
  rw [same, other] at starts
  cases starts

end Routes

def platformOnly (path : String) (method : Method) : Bool :=
  if method = .post && (path = "/v1/reports" || path = "/v1/reports/transcribe-audio") then false
  else if method = .post && startsWith "/v1/reports/" path && endsWith "/attachments" path then false
  else if method = .post && (path = "/v1/cases" ||
      (startsWith "/v1/cases/" path && endsWith "/events" path) ||
      (startsWith "/v1/cases/" path && endsWith "/verify" path)) then false
  else if method = .post && startsWith "/v1/cases/" path && endsWith "/alerts" path then false
  else path = "/v1/reports" || startsWith "/v1/reports/" path ||
    startsWith "/v1/attachments/" path || path = "/v1/cases" || startsWith "/v1/cases/" path ||
    path = "/v1/audit-events" || startsWith "/v1/deliveries/" path ||
    (startsWith "/v1/alerts/" path && endsWith "/deliveries" path) || path = "/v1/consumers"

def restrictIncidentAccess (verify : String → Option VerifiedSession) (path : String)
    (method : Method) (headers : List (String × Bytes)) (requestId : Uuid) {α : Type}
    (next : Handler α) : Handler α :=
  if platformOnly path method then do
    let actor ← Reviewer.actorFromHeaders verify headers requestId
    let membership ← membership actor requestId
    if membership.role ≠ .platformAdmin then refuse (denied requestId) else next
  else next

end OrganizationAccess

end SafeCameroon.Incidents
