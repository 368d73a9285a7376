import SafeCameroon.Infrastructure.SessionToken
import SafeCameroon.Library.Journal

namespace SafeCameroon.Sessions

open Table Process

/-- A reviewer as the check of sessions sees one; times are in microseconds. -/
structure SessionRow where
  reviewerId : Uuid
  sessionsRevokedAt : Option Nat

/-- A reviewer who is not there counts as revoked. -/
def isSessionRevoked (reviewerId : Uuid) (issuedAt : Nat) (reviewers : List SessionRow) : Bool :=
  match lookup (·.reviewerId) reviewerId reviewers with
  | none => true
  | some row => (row.sessionsRevokedAt.map fun revokedAt =>
      decide (issuedAt * second < revokedAt)).getD false

def revokeAllSessions (now : Nat) (reviewerId : Uuid) (reviewers : List SessionRow) :
    List SessionRow :=
  updateWhere (fun row => decide (row.reviewerId = reviewerId))
    (fun row => { row with sessionsRevokedAt := some now }) reviewers

/-- What logins, logouts and requests call where sessions are concerned. -/
inductive Call where
  | now
  | incident (call : Incidents.Call)
  | revokeAllSessions (reviewerId : Uuid)
  | recordLogout (reviewerId requestId : Uuid)

@[reducible] def Call.Res : Call → Type
  | .now => Nat
  | .incident call => call.Res
  | .revokeAllSessions _ => Unit
  | .recordLogout _ _ => Unit

@[reducible] def sessionInterface : Interface := { Op := Call, Res := Call.Res, Err := Failure }

def runCall (occasion : Occasion) : (call : Call) → List SessionRow →
    Except Failure call.Res × List SessionRow
  | .now, reviewers => (.ok occasion.now, reviewers)
  | .incident (.isSessionRevoked reviewerId issuedAt), reviewers =>
      if occasion.fault then (.error .database, reviewers)
      else (.ok (isSessionRevoked reviewerId issuedAt reviewers), reviewers)
  -- Nothing else is called where only sessions are concerned.
  | .incident _, reviewers => (.error .database, reviewers)
  | .revokeAllSessions reviewerId, reviewers =>
      if occasion.fault then (.error .database, reviewers)
      else (.ok (), revokeAllSessions occasion.now reviewerId reviewers)
  | .recordLogout _ _, reviewers =>
      if occasion.fault then (.error .database, reviewers) else (.ok (), reviewers)

abbrev World := Journal sessionInterface (List SessionRow)

@[reducible] def sessionMachine : Machine sessionInterface := Journal.machine runCall

abbrev Handler := Proc sessionInterface HandlerError

def systemTime : Handler Nat :=
  Proc.perform (I := sessionInterface) .now fun _ =>
    .panicked "system clock is after the Unix epoch"

/-- A repository call whose error becomes the given response; a panic answers nothing. -/
def orFail (error : ApiError) (call : Call) : Handler call.Res :=
  Proc.perform (I := sessionInterface) call fun
    | .database => .api error
    | .panic message => .panicked message

variable (hmac : Hmac) (issuer : ReviewerSessionTokenIssuer)

def presentedToken (headers : List (String × Bytes)) : Option String :=
  ((header "authorization" headers).bind headerText).bind Incidents.Reviewer.bearerToken

/-- What verifying the token of a request at the given time comes to, a panic included. -/
def verification (now : Nat) (headers : List (String × Bytes)) :
    Except String (Option Incidents.VerifiedSession) :=
  match presentedToken headers with
  | none => .ok none
  | some token => issuer.verify hmac (now / second) token

/-- Establishes who makes a request; the token is verified against the clock before the database is
asked. -/
def actorFromHeaders (headers : List (String × Bytes)) (requestId : Uuid) : Handler Actor := do
  let now ← systemTime
  match verification hmac issuer now headers with
  | .error message => .fail (.panicked message)
  | .ok verified =>
      (Incidents.Reviewer.actorFromHeaders (fun _ => verified) headers requestId).embed
        Call.incident fun _ answer => answer

def login (reviewerId : Uuid) : Handler IssuedSessionToken := do
  let now ← systemTime
  return issuer.issue hmac (now / second) reviewerId

def notAuthenticated (requestId : Uuid) : ApiError :=
  { status := 401, code := "NOT_AUTHENTICATED"
    message := "Logout requires an authenticated session.", requestId }

def persistenceFailed (requestId : Uuid) : ApiError :=
  { status := 500, code := "REVIEWER_PERSISTENCE_FAILED"
    message := "The request could not be saved. Please try again.", requestId }

def logout (headers : List (String × Bytes)) (requestId : Uuid) : Handler Unit := do
  match ← actorFromHeaders hmac issuer headers requestId with
  | .automated => .fail (.api (notAuthenticated requestId))
  | .reviewer reviewerId =>
      let _ ← orFail (persistenceFailed requestId) (.revokeAllSessions reviewerId)
      orFail (persistenceFailed requestId) (.recordLogout reviewerId requestId)

/-- A login of a reviewer, a logout, or any other request. -/
inductive Job where
  | login (reviewerId : Uuid)
  | logout (headers : List (String × Bytes)) (requestId : Uuid)
  | request (headers : List (String × Bytes)) (requestId : Uuid)

def Job.headers : Job → Option (List (String × Bytes))
  | .login _ => none
  | .logout headers _ | .request headers _ => some headers

inductive Outcome where
  | token (issued : IssuedSessionToken)
  | actor (actor : Actor)
  | noContent

def program : Job → Handler Outcome
  | .login reviewerId => .token <$> login hmac issuer reviewerId
  | .logout headers requestId => (fun _ => .noContent) <$> logout hmac issuer headers requestId
  | .request headers requestId => .actor <$> actorFromHeaders hmac issuer headers requestId

def Issued (jobs : Nat → Job) (history : List (Process.Entry sessionInterface)) (reviewerId : Uuid)
    (time : Nat) : Prop :=
  ∃ entry ∈ history, jobs entry.pid = .login reviewerId ∧ entry.op = .now ∧ entry.time = time

/-- The text was signed under the issuer's secret, which only a login does. -/
def Signed (jobs : Nat → Job) (history : List (Process.Entry sessionInterface)) (text : String) :
    Prop :=
  ∃ reviewerId time, Issued jobs history reviewerId time ∧
    text = ReviewerSessionTokenIssuer.signedText reviewerId (time / second + issuer.ttl)

/-- What a process may bring to its first call: a reviewer who is there, or a token whose signature
is not forged; and the expiry of what is issued fits 64 bits. -/
structure Admissible (jobs : Nat → Job) (pid now : Nat) (world : World) : Prop where
  known : ∀ reviewerId, jobs pid = .login reviewerId →
    reviewerId ∈ world.store.map (·.reviewerId) ∧ now / second + issuer.ttl < 2 ^ 64
  unforged : ∀ headers token text, (jobs pid).headers = some headers →
    presentedToken headers = some token →
    ReviewerSessionTokenIssuer.presentedSignature token = some (hmac issuer.secret text) →
    Signed issuer jobs world.history text

/-- The clock never goes back, reviewers log in who are there, and nobody forges a signature. -/
def sessionRules (jobs : Nat → Job) : Rules sessionMachine where
  mayCall := fun pid call occasion world => world.clock ≤ occasion.now ∧
    (call = .now → Admissible hmac issuer jobs pid occasion.now world)
  mayHalt := fun _ _ _ => True

abbrev Pool := Config sessionMachine HandlerError Outcome

/-- The configurations that logins, logouts and requests reach. -/
abbrev Reaches (jobs : Nat → Job) (init : List SessionRow) (start : Nat) : Pool → Prop :=
  Reach (sessionRules hmac issuer jobs) (fun pid => program hmac issuer (jobs pid))
    (initially (Journal.initial init start))

end SafeCameroon.Sessions
