import SafeCameroon.Incidents.Requests

namespace SafeCameroon.Incidents

open Process Text

abbrev Known := (call : Call) → Except Failure call.Res → Prop

def knownFrom (past : List (Exchange incidentInterface)) : Known :=
  fun call answer => ⟨call, answer⟩ ∈ past

/-- The case that the two queries of `find_by_id` gave. -/
def CaseRead (known : Known) (caseId : CaseId) (c : Case) : Prop :=
  ∃ row reportIds, known (.findCaseRow caseId) (.ok (some row)) ∧
    known (.findCaseReports caseId) (.ok reportIds) ∧
    PostgresCaseRepository.reconstitute row reportIds = .ok c

def ActorKnown (verify : String → Option VerifiedSession) (headers : List (String × Bytes))
    (known : Known) : Actor → Prop
  | .automated => header "authorization" headers = none
  | .reviewer id => ∃ value token issuedAt, header "authorization" headers = some value ∧
      (headerText value).bind Reviewer.bearerToken = some token ∧
      verify token = some ⟨id, issuedAt⟩ ∧ known (.isSessionRevoked id issuedAt) (.ok false)

structure MembershipRead (known : Known) (reviewerId : Uuid) (membership : Membership)
    (organization : Option Organization) : Prop where
  asked : ∃ found, known (.findMembership reviewerId) (.ok found) ∧
    membership = Cases.membershipOrNone found
  belongs : ∀ id, membership.organizationId = some id →
    known (.findOrganization id) (.ok organization)
  absent : membership.organizationId = none → organization = none

def VerificationEntitled (known : Known) (reviewerId : Uuid) (caseId : CaseId) : Prop :=
  ∃ c membership organization, CaseRead known caseId c ∧
    MembershipRead known reviewerId membership organization ∧
    authorizeCaseVerification membership organization c.incidentType = .ok ()

def AdminKnown (known : Known) (reviewerId : Uuid) : Prop :=
  ∃ membership, known (.findMembership reviewerId) (.ok (some membership)) ∧
    membership.role = .platformAdmin

def Request.generic : Request → Bool
  | .createCaseEvent _ _ => true
  | _ => false

/-- What the routes ask of the actor of a transition before they make it; the generic one asks for
no membership. -/
structure MovePermitted (verify : String → Option VerifiedSession) (headers : List (String × Bytes))
    (request : Request) (known : Known) (caseId : CaseId) (actor : Actor) (after : CaseStatus) :
    Prop where
  named : ActorKnown verify headers known actor
  reviewer : authorizeCaseTransition actor after = .ok ()
  verified : request.generic = false → after = .verified →
    ∀ reviewerId, actor = .reviewer reviewerId → VerificationEntitled known reviewerId caseId
  resolved : request.generic = false → after = .resolved →
    ∀ reviewerId, actor = .reviewer reviewerId → AdminKnown known reviewerId

def IssuancePermitted (known : Known) (reviewerId : Uuid) (visibility : AlertVisibility)
    (issuer : Option OrganizationId) : Prop :=
  ∃ membership organization, MembershipRead known reviewerId membership organization ∧
    authorizeAlertIssuance membership organization visibility = .ok () ∧
    issuer = membership.organizationId

structure AccessRead (known : Known) (reviewerId : Uuid) (access : Alerts.AlertAccess) : Prop where
  asked : known (.findMembership reviewerId) (.ok (some access.membership))
  belongs : ∀ id, access.membership.organizationId = some id →
    known (.findOrganization id) (.ok access.organization)
  absent : access.membership.organizationId = none → access.organization = none
  subscribed : ∀ id, (access.organization.filter (·.isActive)).bind (·.consumerId) = some id →
    known (.findSubscriptionsByConsumer id) (.ok access.subscriptions)
  unsubscribed : (access.organization.filter (·.isActive)).bind (·.consumerId) = none →
    access.subscriptions = []

def CancellationPermitted (unicode : UnicodeData) (known : Known) (reviewerId : Uuid)
    (alert : Alert) : Prop :=
  ∃ access, AccessRead known reviewerId access ∧ access.canCancel unicode alert = true

def Proper (server : Server) (headers : List (String × Bytes)) (request : Request) (known : Known) :
    Call → Prop
  | .createCase creation => ∃ fresh incidentType reportId actor requestId,
      creation = createCaseFromReport fresh incidentType reportId actor requestId
  | .linkReport c link => ∃ caseId before, CaseRead known caseId before ∧
      before.linkReport link.event.id link.reportId = .ok (c, link.event)
  | .applyReview c review => ∃ caseId before, CaseRead known caseId before ∧
      before.transitionTo review.event.id c.status = .ok (c, review.event) ∧
      MovePermitted server.verify headers request known caseId review.actor c.status
  | .createAlert creation => ∃ reviewerId caseId c policy,
      creation.actor = .reviewer reviewerId ∧
      ActorKnown server.verify headers known creation.actor ∧
      CaseRead known caseId c ∧
      Alert.New c policy creation.alert.issuedByOrganizationId creation.alert creation.event ∧
      IssuancePermitted known reviewerId creation.alert.visibility
        creation.alert.issuedByOrganizationId
  | .cancelAlert alert cancellation => ∃ reviewerId alertId before fresh requestId,
      ActorKnown server.verify headers known (.reviewer reviewerId) ∧
      known (.findAlert alertId) (.ok (some before)) ∧
      cancelAlert fresh before (.reviewer reviewerId) requestId = .ok (alert, cancellation) ∧
      CancellationPermitted server.unicode known reviewerId before
  | _ => True

abbrev minds (server : Server) (headers : List (String × Bytes)) (request : Request) :
    List (Exchange incidentInterface) → Call → Prop :=
  fun past => Proper server headers request (knownFrom past)

def Server.minds (server : Server) : Job → List (Exchange incidentInterface) → Call → Prop
  | .request _ headers request => Incidents.minds server headers request
  | .edit edit => fun _ call => call = .edit edit

section Keeping

variable {known later : Known} (keeps : ∀ call answer, known call answer → later call answer)
include keeps

theorem CaseRead.mono {caseId : CaseId} {c : Case} (read : CaseRead known caseId c) :
    CaseRead later caseId c := by
  obtain ⟨row, reportIds, first, second, built⟩ := read
  exact ⟨row, reportIds, keeps _ _ first, keeps _ _ second, built⟩

theorem ActorKnown.mono {verify : String → Option VerifiedSession} {headers : List (String × Bytes)}
    {actor : Actor} (named : ActorKnown verify headers known actor) :
    ActorKnown verify headers later actor := by
  cases actor with
  | automated => exact named
  | reviewer id =>
      obtain ⟨value, token, issuedAt, present, bearer, verified, asked⟩ := named
      exact ⟨value, token, issuedAt, present, bearer, verified, keeps _ _ asked⟩

theorem MembershipRead.mono {reviewerId : Uuid} {membership : Membership}
    {organization : Option Organization}
    (read : MembershipRead known reviewerId membership organization) :
    MembershipRead later reviewerId membership organization where
  asked := by
    obtain ⟨found, answered, same⟩ := read.asked
    exact ⟨found, keeps _ _ answered, same⟩
  belongs := fun id named => keeps _ _ (read.belongs id named)
  absent := read.absent

theorem VerificationEntitled.mono {reviewerId : Uuid} {caseId : CaseId}
    (entitled : VerificationEntitled known reviewerId caseId) :
    VerificationEntitled later reviewerId caseId := by
  obtain ⟨c, membership, organization, read, member, authorized⟩ := entitled
  exact ⟨c, membership, organization, read.mono keeps, member.mono keeps, authorized⟩

theorem AdminKnown.mono {reviewerId : Uuid} (admin : AdminKnown known reviewerId) :
    AdminKnown later reviewerId := by
  obtain ⟨membership, answered, role⟩ := admin
  exact ⟨membership, keeps _ _ answered, role⟩

theorem IssuancePermitted.mono {reviewerId : Uuid} {visibility : AlertVisibility}
    {issuer : Option OrganizationId}
    (permitted : IssuancePermitted known reviewerId visibility issuer) :
    IssuancePermitted later reviewerId visibility issuer := by
  obtain ⟨membership, organization, read, facts⟩ := permitted
  exact ⟨membership, organization, read.mono keeps, facts⟩

theorem AccessRead.mono {reviewerId : Uuid} {access : Alerts.AlertAccess}
    (read : AccessRead known reviewerId access) : AccessRead later reviewerId access where
  asked := keeps _ _ read.asked
  belongs := fun id named => keeps _ _ (read.belongs id named)
  absent := read.absent
  subscribed := fun id consumes => keeps _ _ (read.subscribed id consumes)
  unsubscribed := read.unsubscribed

end Keeping

end SafeCameroon.Incidents
