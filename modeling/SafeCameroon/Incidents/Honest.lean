import SafeCameroon.Application.Disclosure
import SafeCameroon.Incidents.Proper

namespace SafeCameroon.Incidents

open Process Proc Text

variable {server : Server} {headers : List (String × Bytes)} {request : Request} {α : Type}

theorem knownFrom_mono {past later : List (Exchange incidentInterface)} (grown : past ⊆ later)
    (call : Call) (answer : Except Failure call.Res) (known : knownFrom past call answer) :
    knownFrom later call answer :=
  grown known

theorem knownFrom_head (past : List (Exchange incidentInterface)) (call : Call)
    (answer : Except Failure call.Res) : knownFrom (⟨call, answer⟩ :: past) call answer :=
  List.mem_cons_self

theorem ActorKnown.unique {verify : String → Option VerifiedSession} {known : Known}
    {first second : Actor} (left : ActorKnown verify headers known first)
    (right : ActorKnown verify headers known second) : first = second := by
  cases first with
  | automated =>
      cases second with
      | automated => rfl
      | reviewer id =>
          obtain ⟨value, _, _, present, _⟩ := right
          have absent : header "authorization" headers = none := left
          simp [absent] at present
  | reviewer id =>
      obtain ⟨value, token, issuedAt, present, bearer, verified, _⟩ := left
      cases second with
      | automated =>
          have absent : header "authorization" headers = none := right
          simp [absent] at present
      | reviewer other =>
          obtain ⟨otherValue, otherToken, otherTime, again, spoken, accepted, _⟩ := right
          have sameValue : value = otherValue := Option.some.inj (present.symm.trans again)
          subst sameValue
          have sameToken : token = otherToken := Option.some.inj (bearer.symm.trans spoken)
          subst sameToken
          have sameSession := Option.some.inj (verified.symm.trans accepted)
          rw [(VerifiedSession.mk.inj sameSession).1]

theorem yields_orFail (fact : List (Exchange incidentInterface) → α → Prop) (error : ApiError)
    (call : Call) (rest : call.Res → Handler α) (past : List (Exchange incidentInterface))
    (allowed : minds server headers request past call)
    (next : ∀ value, (rest value).Yields (minds server headers request) fact
      (⟨call, .ok value⟩ :: past)) :
    ((orFail error call).bind rest).Yields (minds server headers request) fact past :=
  yields_perform _ _ _ _ _ allowed next

theorem yields_ask (error : ApiError) (call : Call)
    (fact : List (Exchange incidentInterface) → call.Res → Prop)
    (past : List (Exchange incidentInterface)) (allowed : minds server headers request past call)
    (holds : ∀ value, fact (⟨call, .ok value⟩ :: past) value) :
    (orFail error call).Yields (minds server headers request) fact past := by
  refine ⟨allowed, fun answer => ?_⟩
  cases answer with
  | ok value =>
      refine ⟨List.subset_cons_self _ _, ?_⟩
      intro other same
      cases same
      exact holds value
  | error error => exact ⟨List.subset_cons_self _ _, fun value same => by cases same⟩

theorem actorFromHeaders_yields (requestId : Uuid) (past : List (Exchange incidentInterface)) :
    (Reviewer.actorFromHeaders server.verify headers requestId).Yields
      (minds server headers request)
      (fun later actor => ActorKnown server.verify headers (knownFrom later) actor) past := by
  unfold Reviewer.actorFromHeaders
  split
  · rename_i absent
    exact yields_done _ _ _ absent
  · rename_i value present
    split
    · exact yields_fail _ _ _
    · rename_i token bearer
      split
      · exact yields_fail _ _ _
      · rename_i verified accepted
        apply yields_orFail
        · trivial
        · intro revoked
          cases revoked with
          | true => exact yields_fail _ _ _
          | false =>
              exact yields_done _ _ _
                ⟨value, token, verified.issuedAt, present, bearer, accepted, knownFrom_head _ _ _⟩

theorem findById_yields (error : ApiError) (caseId : CaseId)
    (past : List (Exchange incidentInterface)) :
    (Cases.findById error caseId).Yields (minds server headers request)
      (fun later found => ∀ c, found = some c → CaseRead (knownFrom later) caseId c) past := by
  unfold Cases.findById
  apply yields_orFail
  · trivial
  · intro found
    cases found with
    | none => exact yields_done _ _ _ (by simp)
    | some row =>
        apply yields_orFail
        · trivial
        · intro reportIds
          have rows : knownFrom (⟨.findCaseReports caseId, .ok reportIds⟩ ::
              ⟨.findCaseRow caseId, .ok (some row)⟩ :: past) (.findCaseRow caseId)
                (.ok (some row)) := List.mem_cons_of_mem _ List.mem_cons_self
          split
          · rename_i c built
            refine yields_done _ _ _ ?_
            intro other same
            obtain rfl := Option.some.inj same
            exact ⟨row, reportIds, rows, knownFrom_head _ _ _, built⟩
          · exact yields_fail _ _ _
          · exact yields_fail _ _ _

theorem findCase_yields (error : ApiError) (caseId : CaseId) (requestId : Uuid)
    (rest : Case → Handler α) (fact : List (Exchange incidentInterface) → α → Prop)
    (past : List (Exchange incidentInterface))
    (next : ∀ later c, past ⊆ later → CaseRead (knownFrom later) caseId c →
      (rest c).Yields (minds server headers request) fact later) :
    ((Cases.findById error caseId).bind fun found =>
      (Cases.found requestId found).bind rest).Yields (minds server headers request) fact past := by
  apply yields_bind _ _ _ _ _ (findById_yields error caseId past)
  intro later found grown read
  cases found with
  | none => exact yields_fail _ _ _
  | some c => exact next later c grown (read c rfl)

theorem organizationOf_yields (error : ApiError) (membership : Membership)
    (past : List (Exchange incidentInterface)) :
    (Cases.organizationOf error membership).Yields (minds server headers request)
      (fun later organization =>
        (∀ id, membership.organizationId = some id →
          knownFrom later (.findOrganization id) (.ok organization)) ∧
        (membership.organizationId = none → organization = none)) past := by
  unfold Cases.organizationOf
  split
  · rename_i absent
    exact yields_done _ _ _ ⟨by simp [absent], fun _ => rfl⟩
  · rename_i organizationId named
    apply yields_orFail
    · trivial
    · intro found
      cases found with
      | none => exact yields_fail _ _ _
      | some organization =>
          refine yields_done _ _ _ ⟨?_, by simp [named]⟩
          intro id same
          obtain rfl := Option.some.inj (named.symm.trans same)
          exact knownFrom_head _ _ _

theorem standing_yields (error : ApiError) (reviewerId : Uuid)
    (rest : Option Membership → Option Organization → Handler α)
    (fact : List (Exchange incidentInterface) → α → Prop)
    (past : List (Exchange incidentInterface))
    (next : ∀ later found organization, past ⊆ later →
      MembershipRead (knownFrom later) reviewerId (Cases.membershipOrNone found) organization →
      (rest found organization).Yields (minds server headers request) fact later) :
    ((orFail error (.findMembership reviewerId)).bind fun found =>
      (Cases.organizationOf error (Cases.membershipOrNone found)).bind fun organization =>
        rest found organization).Yields
      (minds server headers request) fact past := by
  apply yields_orFail
  · trivial
  · intro found
    apply yields_bind _ _ _ _ _ (organizationOf_yields error _ _)
    intro later organization grown read
    have older : past ⊆ later := fun _ member => grown (List.mem_cons_of_mem _ member)
    have answered : knownFrom later (.findMembership reviewerId) (.ok found) :=
      grown List.mem_cons_self
    exact next later found organization older ⟨⟨found, answered, rfl⟩, read.1, read.2⟩

theorem authorizeVerification_yields (actor : Actor) (incidentType : IncidentType)
    (requestId : Uuid) (past : List (Exchange incidentInterface)) :
    (Cases.authorizeVerificationByOrganization actor incidentType requestId).Yields
      (minds server headers request)
      (fun later _ => ∀ reviewerId, actor = .reviewer reviewerId →
        ∃ membership organization, MembershipRead (knownFrom later) reviewerId membership
          organization ∧ authorizeCaseVerification membership organization incidentType = .ok ())
      past := by
  cases actor with
  | automated => exact yields_done _ _ _ (by simp)
  | reviewer reviewerId =>
      apply standing_yields (Cases.persistenceFailed requestId) reviewerId
      intro later found organization grown read
      split
      · rename_i authorized
        refine yields_done _ _ _ ?_
        intro other same
        cases same
        exact ⟨Cases.membershipOrNone found, organization, read, authorized⟩
      · exact yields_fail _ _ _

/-- A transition is the domain's, on a case that was read, by an actor whom the flat check lets
through. -/
theorem reviewCase_ok (fresh : Supply) (before c : Case) (actor : Actor) (after : CaseStatus)
    (requestId : Uuid) (review : CaseReview)
    (h : reviewCase fresh before actor after requestId = .ok (c, review)) :
    c.status = after ∧ review.actor = actor ∧ authorizeCaseTransition actor after = .ok () ∧
      before.transitionTo review.event.id c.status = .ok (c, review.event) ∧
      review.requestId = requestId := by
  simp only [reviewCase, Table.bind_ok, pure, Except.pure, Except.ok.injEq, Prod.mk.injEq] at h
  obtain ⟨_, flat, ⟨moved, event⟩, transition, rfl, rfl⟩ := h
  have allowedFlat : authorizeCaseTransition actor after = .ok () := by
    cases result : authorizeCaseTransition actor after with
    | error error => simp [result, Except.mapError] at flat
    | ok value => rfl
  simp only [Case.transitionTo] at transition
  split at transition
  · rename_i allowed
    simp only [Except.mapError, Except.ok.injEq, Prod.mk.injEq] at transition
    obtain ⟨rfl, rfl⟩ := transition
    exact ⟨rfl, rfl, allowedFlat, by simp [Case.transitionTo, allowed, Case.event], rfl⟩
  · simp [Except.mapError] at transition

theorem transitionCase_yields (fresh : Supply) (caseId : CaseId) (actor : Actor)
    (after : CaseStatus) (requestId : Uuid) (past : List (Exchange incidentInterface))
    (named : ActorKnown server.verify headers (knownFrom past) actor)
    (verified : request.generic = false → after = .verified → ∀ reviewerId,
      actor = .reviewer reviewerId → VerificationEntitled (knownFrom past) reviewerId caseId)
    (resolved : request.generic = false → after = .resolved → ∀ reviewerId,
      actor = .reviewer reviewerId → AdminKnown (knownFrom past) reviewerId) :
    (Cases.transitionCase fresh caseId actor after requestId).Yields (minds server headers request)
      (fun _ _ => True) past := by
  apply findCase_yields
  intro later before grown read
  have keeps := knownFrom_mono grown
  split
  · exact yields_fail _ _ _
  · rename_i c review reviewed
    obtain ⟨status, mover, flat, moved, _⟩ := reviewCase_ok _ _ _ _ _ _ _ reviewed
    apply yields_orFail
    · refine ⟨caseId, before, read, moved, ?_, ?_, ?_, ?_⟩
      · rw [mover]
        exact named.mono keeps
      · rw [mover, status]
        exact flat
      · intro dedicated same reviewerId reviewer
        exact (verified dedicated (status.symm.trans same) reviewerId
          (mover.symm.trans reviewer)).mono keeps
      · intro dedicated same reviewerId reviewer
        exact (resolved dedicated (status.symm.trans same) reviewerId
          (mover.symm.trans reviewer)).mono keeps
    · intro outcome
      cases outcome with
      | applied => exact yields_done _ _ _ trivial
      | conflict => exact yields_fail _ _ _

theorem membership_yields (actor : Actor) (requestId : Uuid)
    (past : List (Exchange incidentInterface)) :
    (OrganizationAccess.membership actor requestId).Yields (minds server headers request)
      (fun later membership => ∃ reviewerId, actor = .reviewer reviewerId ∧
        knownFrom later (.findMembership reviewerId) (.ok (some membership))) past := by
  cases actor with
  | automated => exact yields_fail _ _ _
  | reviewer reviewerId =>
      apply yields_orFail
      · trivial
      · intro found
        cases found with
        | none => exact yields_fail _ _ _
        | some membership =>
            exact yields_done _ _ _ ⟨reviewerId, rfl, knownFrom_head _ _ _⟩

theorem restrictIncidentAccess_yields (path : String) (method : Method) (requestId : Uuid)
    (next : Handler α) (fact : List (Exchange incidentInterface) → α → Prop)
    (past : List (Exchange incidentInterface))
    (behind : ∀ later, (OrganizationAccess.platformOnly path method = true →
        ∃ reviewerId, ActorKnown server.verify headers (knownFrom later) (.reviewer reviewerId) ∧
          AdminKnown (knownFrom later) reviewerId) →
      next.Yields (minds server headers request) fact later) :
    (OrganizationAccess.restrictIncidentAccess server.verify path method headers requestId
      next).Yields (minds server headers request) fact past := by
  unfold OrganizationAccess.restrictIncidentAccess
  split
  · apply yields_bind _ _ _ _ _ (actorFromHeaders_yields requestId past)
    intro second actor _ named
    apply yields_bind _ _ _ _ _ (membership_yields actor requestId second)
    intro third membership grown standing
    split
    · exact yields_fail _ _ _
    · rename_i admin
      obtain ⟨reviewerId, rfl, asked⟩ := standing
      apply behind
      intro restricted
      exact ⟨reviewerId, named.mono (knownFrom_mono grown), membership, asked, not_not.mp admin⟩
  · rename_i unrestricted
    apply behind
    intro restricted
    exact absurd restricted unrestricted

theorem issuingOrganization_yields (actor : Actor) (visibility : AlertVisibility)
    (requestId : Uuid) (past : List (Exchange incidentInterface)) :
    (Alerts.issuingOrganization actor visibility requestId).Yields (minds server headers request)
      (fun later issuer => ∃ reviewerId, actor = .reviewer reviewerId ∧
        IssuancePermitted (knownFrom later) reviewerId visibility issuer) past := by
  cases actor with
  | automated => exact yields_fail _ _ _
  | reviewer reviewerId =>
      apply standing_yields (Alerts.persistenceFailed requestId) reviewerId
      intro later found organization grown read
      split
      · rename_i authorized
        exact yields_done _ _ _
          ⟨reviewerId, rfl, Cases.membershipOrNone found, organization, read, authorized, rfl⟩
      · exact yields_fail _ _ _

theorem alertAccess_yields (actor : Actor) (requestId : Uuid)
    (past : List (Exchange incidentInterface)) :
    (Alerts.alertAccess actor requestId).Yields (minds server headers request)
      (fun later access => ∃ reviewerId, actor = .reviewer reviewerId ∧
        AccessRead (knownFrom later) reviewerId access) past := by
  apply yields_bind _ _ _ _ _ (membership_yields actor requestId past)
  intro second membership _ standing
  obtain ⟨reviewerId, rfl, asked⟩ := standing
  have organizations : (Alerts.accessOrganization membership requestId).Yields
      (minds server headers request)
      (fun later organization =>
        (∀ id, membership.organizationId = some id →
          knownFrom later (.findOrganization id) (.ok organization)) ∧
        (membership.organizationId = none → organization = none)) second := by
    unfold Alerts.accessOrganization
    split
    · rename_i id named
      apply yields_ask
      · trivial
      · intro organization
        refine ⟨?_, by simp [named]⟩
        intro asked belongs
        obtain rfl := Option.some.inj (named.symm.trans belongs)
        exact knownFrom_head _ _ _
    · rename_i absent
      exact yields_done _ _ _ ⟨by simp [absent], fun _ => rfl⟩
  apply yields_bind _ _ _ _ _ organizations
  intro third organization grown belongs
  have subscriptions : (Alerts.accessSubscriptions organization requestId).Yields
      (minds server headers request)
      (fun later subscriptions =>
        (∀ id, (organization.filter (·.isActive)).bind (·.consumerId) = some id →
          knownFrom later (.findSubscriptionsByConsumer id) (.ok subscriptions)) ∧
        ((organization.filter (·.isActive)).bind (·.consumerId) = none → subscriptions = []))
      third := by
    unfold Alerts.accessSubscriptions
    split
    · rename_i id consumes
      apply yields_ask
      · trivial
      · intro subscriptions
        refine ⟨?_, by simp [consumes]⟩
        intro asked consumed
        obtain rfl := Option.some.inj (consumes.symm.trans consumed)
        exact knownFrom_head _ _ _
    · rename_i absent
      exact yields_done _ _ _ ⟨by simp [absent], fun _ => rfl⟩
  apply yields_bind _ _ _ _ _ subscriptions
  intro fourth subscriptions last subscribed
  have keeps := knownFrom_mono last
  exact yields_done _ _ _ ⟨reviewerId, rfl, keeps _ _ (grown asked),
    fun id named => keeps _ _ (belongs.1 id named), belongs.2, subscribed.1, subscribed.2⟩

theorem authorizeCancellation_yields (actor : Actor) (issuer : Option OrganizationId)
    (requestId : Uuid) (past : List (Exchange incidentInterface)) :
    (Alerts.authorizeCancellationByOrganization actor issuer requestId).Yields
      (minds server headers request) (fun _ _ => True) past := by
  cases actor with
  | automated => exact yields_done _ _ _ trivial
  | reviewer reviewerId =>
      apply yields_orFail
      · trivial
      · intro membership
        split
        · exact yields_done _ _ _ trivial
        · exact yields_fail _ _ _

theorem pathId_yields (requestId : Uuid) (segment : String)
    (past : List (Exchange incidentInterface)) :
    (pathId requestId segment).Yields (minds server headers request) (fun _ _ => True) past := by
  unfold pathId
  split
  · exact yields_done _ _ _ trivial
  · exact yields_fail _ _ _

theorem ignore_yields (handler : Handler α) (past : List (Exchange incidentInterface))
    (yields : handler.Yields (minds server headers request) (fun _ _ => True) past) :
    (ignore handler).Yields (minds server headers request) (fun _ _ => True) past := by
  apply yields_bind _ _ _ _ _ yields
  intro later value _ _
  exact yields_done _ _ _ trivial

theorem enforceRateLimit_yields (scope : RateLimitScope) (requestId : Uuid)
    (past : List (Exchange incidentInterface)) :
    (Reports.enforceRateLimit scope headers requestId).Yields (minds server headers request)
      (fun _ _ => True) past := by
  apply yields_orFail
  · trivial
  · intro withinLimit
    cases withinLimit with
    | true => exact yields_done _ _ _ trivial
    | false => exact yields_fail _ _ _

theorem createAnonymousReport_yields (fresh : Supply) (content : String)
    (incidentType : Option IncidentType) (requestId : Uuid)
    (past : List (Exchange incidentInterface)) :
    (Reports.createAnonymousReport server.sha256 fresh headers content incidentType
      requestId).Yields (minds server headers request) (fun _ _ => True) past := by
  apply yields_bind _ _ _ _ _ (enforceRateLimit_yields _ requestId past)
  intro second _ _ _
  split
  · exact yields_fail _ _ _
  · split
    · exact yields_fail _ _ _
    · apply yields_orFail
      · trivial
      · intro outcome
        cases outcome with
        | created => exact yields_done _ _ _ trivial
        | duplicate reportId => exact yields_fail _ _ _

theorem startReportReview_yields (reportId : ReportId) (requestId : Uuid)
    (past : List (Exchange incidentInterface)) :
    (Reports.startReportReview server.verify headers reportId requestId).Yields
      (minds server headers request) (fun _ _ => True) past := by
  apply yields_bind _ _ _ _ _ (actorFromHeaders_yields requestId past)
  intro second actor _ _
  split
  · exact yields_fail _ _ _
  · apply yields_orFail
    · trivial
    · intro changed
      cases changed with
      | false => exact yields_fail _ _ _
      | true =>
          apply yields_orFail
          · trivial
          · intro found
            cases found with
            | none => exact yields_fail _ _ _
            | some report => exact yields_done _ _ _ trivial

theorem createAttachment_yields (reportId : ReportId) (prepared : Except ApiError Unit)
    (requestId : Uuid) (past : List (Exchange incidentInterface)) :
    (Reports.createAttachment headers reportId prepared requestId).Yields
      (minds server headers request) (fun _ _ => True) past := by
  apply yields_bind _ _ _ _ _ (enforceRateLimit_yields _ requestId past)
  intro second _ _ _
  apply yields_orFail
  · trivial
  · intro found
    cases found with
    | none => exact yields_fail _ _ _
    | some report =>
        cases prepared with
        | error error => exact yields_fail _ _ _
        | ok value => exact yields_ask _ _ _ _ trivial fun _ => trivial

theorem createCase_yields (fresh : Supply) (reportId : ReportId) (incidentType : IncidentType)
    (requestId : Uuid) (past : List (Exchange incidentInterface)) :
    (Cases.createCase server.verify fresh headers reportId incidentType requestId).Yields
      (minds server headers request) (fun _ _ => True) past := by
  apply yields_bind _ _ _ _ _ (actorFromHeaders_yields requestId past)
  intro second actor _ _
  apply yields_orFail
  · exact ⟨fresh, incidentType, reportId, actor, requestId, rfl⟩
  · intro outcome
    cases outcome with
    | created => exact yields_done _ _ _ trivial
    | reportAlreadyLinked => exact yields_fail _ _ _

theorem linkReport_yields (fresh : Supply) (caseId : CaseId) (reportId : ReportId)
    (requestId : Uuid) (past : List (Exchange incidentInterface)) :
    (Cases.linkReport server.verify fresh headers caseId reportId requestId).Yields
      (minds server headers request) (fun _ _ => True) past := by
  apply yields_bind _ _ _ _ _ (actorFromHeaders_yields requestId past)
  intro second actor _ _
  apply findCase_yields
  intro third before _ read
  split
  · exact yields_fail _ _ _
  · rename_i c link linked
    simp only [linkReportToCase, Table.bind_ok, pure, Except.pure, Except.ok.injEq,
      Prod.mk.injEq] at linked
    obtain ⟨⟨after, event⟩, domain, rfl, rfl⟩ := linked
    apply yields_orFail
    · refine ⟨caseId, before, read, ?_⟩
      simp only [Case.linkReport] at domain ⊢
      split at domain
      · simp at domain
      · rename_i unlinked
        simp only [Except.ok.injEq, Prod.mk.injEq] at domain
        obtain ⟨rfl, rfl⟩ := domain
        simp [unlinked, Case.event]
    · intro outcome
      cases outcome with
      | linked => exact yields_done _ _ _ trivial
      | reportAlreadyLinked => exact yields_fail _ _ _
      | conflict => exact yields_fail _ _ _

theorem createCaseEvent_yields (fresh : Supply) (caseId : CaseId) (after : CaseStatus)
    (requestId : Uuid) (past : List (Exchange incidentInterface)) (generic : request.generic = true) :
    (Cases.createCaseEvent server.verify fresh headers caseId after requestId).Yields
      (minds server headers request) (fun _ _ => True) past := by
  apply yields_bind _ _ _ _ _ (actorFromHeaders_yields requestId past)
  intro second actor _ named
  apply transitionCase_yields _ _ _ _ _ _ named
  · intro dedicated
    simp [generic] at dedicated
  · intro dedicated
    simp [generic] at dedicated

theorem verifyCase_yields (fresh : Supply) (caseId : CaseId) (requestId : Uuid)
    (past : List (Exchange incidentInterface)) :
    (Cases.verifyCase server.verify fresh headers caseId requestId).Yields
      (minds server headers request) (fun _ _ => True) past := by
  apply yields_bind _ _ _ _ _ (actorFromHeaders_yields requestId past)
  intro second actor _ named
  apply findCase_yields
  intro third c grown read
  apply yields_bind _ _ _ _ _ (authorizeVerification_yields actor c.incidentType requestId third)
  intro fourth _ last entitled
  have keeps := knownFrom_mono last
  apply transitionCase_yields _ _ _ _ _ _ ((named.mono (knownFrom_mono grown)).mono keeps)
  · intro _ _ reviewerId reviewer
    obtain ⟨membership, organization, standing, authorized⟩ := entitled reviewerId reviewer
    exact ⟨c, membership, organization, read.mono keeps, standing, authorized⟩
  · intro _ resolved
    cases resolved

theorem resolveCase_yields (fresh : Supply) (caseId : CaseId) (requestId : Uuid)
    (past : List (Exchange incidentInterface))
    (gate : ∃ reviewerId, ActorKnown server.verify headers (knownFrom past) (.reviewer reviewerId) ∧
      AdminKnown (knownFrom past) reviewerId) :
    (Cases.resolveCase server.verify fresh headers caseId requestId).Yields
      (minds server headers request) (fun _ _ => True) past := by
  apply yields_bind _ _ _ _ _ (actorFromHeaders_yields requestId past)
  intro second actor grown named
  have keeps := knownFrom_mono grown
  obtain ⟨admin, known, role⟩ := gate
  apply transitionCase_yields _ _ _ _ _ _ named
  · intro _ verified
    cases verified
  · intro _ _ reviewerId reviewer
    have same : actor = .reviewer admin := named.unique (known.mono keeps)
    obtain rfl := Actor.reviewer.inj (reviewer.symm.trans same)
    exact role.mono keeps

theorem createAlert_yields (fresh : Supply) (caseId : CaseId)
    (asked : Alerts.CreateAlertRequest) (requestId : Uuid)
    (past : List (Exchange incidentInterface)) :
    (Alerts.createAlert server.verify server.sha256 fresh headers caseId asked requestId).Yields
      (minds server headers request) (fun _ _ => True) past := by
  apply yields_bind _ _ _ _ _ (actorFromHeaders_yields requestId past)
  intro second actor _ named
  split
  · exact yields_fail _ _ _
  · rename_i checked _
    apply yields_bind _ _ _ _ _ (issuingOrganization_yields actor _ requestId second)
    intro third issuer older permitted
    apply findCase_yields
    intro fourth c grown read
    split
    · exact yields_fail _ _ _
    · rename_i creation created
      obtain ⟨reviewerId, rfl, entitled⟩ := permitted
      have keeps := knownFrom_mono grown
      obtain ⟨_, made, creator⟩ := createAlertFromCase_ok _ _ _ _ _ _ _ _ _ _ _ _ created
      have new := Alert.createFromCase_new _ _ _ _ _ _ _ _ _ made
      apply yields_orFail
      · refine ⟨reviewerId, caseId, c, checked.policy, creator, ?_, read, ?_, ?_⟩
        · rw [creator]
          exact (named.mono (knownFrom_mono older)).mono keeps
        · rw [new.issuer]
          exact new
        · rw [new.visibility, new.issuer]
          exact entitled.mono keeps
      · intro outcome
        cases outcome with
        | created => exact yields_done _ _ _ trivial
        | duplicate alertId => exact yields_fail _ _ _

theorem cancel_yields (fresh : Supply) (alertId : AlertId) (requestId : Uuid)
    (past : List (Exchange incidentInterface)) :
    (Alerts.cancel server.unicode server.verify fresh headers alertId requestId).Yields
      (minds server headers request) (fun _ _ => True) past := by
  apply yields_bind _ _ _ _ _ (actorFromHeaders_yields requestId past)
  intro second actor _ named
  apply yields_orFail
  · trivial
  · intro found
    cases found with
    | none => exact yields_fail _ _ _
    | some alert =>
        apply yields_bind _ _ _ _ _ (alertAccess_yields actor requestId _)
        intro third access older standing
        obtain ⟨reviewerId, rfl, read⟩ := standing
        split
        · rename_i allowed
          apply yields_bind _ _ _ _ _ (authorizeCancellation_yields _ _ requestId third)
          intro fourth _ last _
          have keeps := knownFrom_mono last
          split
          · exact yields_fail _ _ _
          · rename_i cancelled cancellation ended
            apply yields_orFail
            · refine ⟨reviewerId, alertId, alert, fresh, requestId, ?_, ?_, ended, access,
                read.mono keeps, allowed⟩
              · have since : second ⊆ third := fun _ member => older (List.mem_cons_of_mem _ member)
                exact (named.mono (knownFrom_mono since)).mono keeps
              · exact keeps _ _ (older List.mem_cons_self)
            · intro outcome
              cases outcome with
              | cancelled => exact yields_done _ _ _ trivial
              | conflict => exact yields_fail _ _ _
        · exact yields_fail _ _ _

theorem handle_yields (fresh : Supply) (requestId : Uuid)
    (past : List (Exchange incidentInterface))
    (gate : OrganizationAccess.platformOnly request.path .post = true → ∃ reviewerId,
      ActorKnown server.verify headers (knownFrom past) (.reviewer reviewerId) ∧
        AdminKnown (knownFrom past) reviewerId) :
    (server.handle fresh headers requestId request).Yields (minds server headers request)
      (fun _ _ => True) past := by
  have routed : ∀ (segment : String) (rest : Uuid → Handler Unit),
      (∀ later id, past ⊆ later → (rest id).Yields (minds server headers request)
        (fun _ _ => True) later) →
      ((pathId requestId segment).bind rest).Yields (minds server headers request)
        (fun _ _ => True) past :=
    fun segment rest next => yields_bind _ _ _ _ _ (pathId_yields requestId segment past)
      fun later id grown _ => next later id grown
  cases request with
  | createAnonymousReport content incidentType =>
      exact ignore_yields _ _ (createAnonymousReport_yields fresh content incidentType requestId past)
  | transcribeAudio transcribed =>
      apply ignore_yields
      apply yields_bind _ _ _ _ _ (enforceRateLimit_yields _ requestId past)
      intro later _ _ _
      cases transcribed with
      | error error => exact yields_fail _ _ _
      | ok transcript => exact yields_done _ _ _ trivial
  | createAttachment segment prepared =>
      apply routed
      intro later id _
      exact ignore_yields _ _ (createAttachment_yields ⟨id⟩ prepared requestId later)
  | startReportReview segment =>
      apply routed
      intro later id _
      exact ignore_yields _ _ (startReportReview_yields ⟨id⟩ requestId later)
  | createCase reportId incidentType =>
      exact ignore_yields _ _ (createCase_yields fresh reportId incidentType requestId past)
  | linkReport segment reportId =>
      apply routed
      intro later id _
      exact ignore_yields _ _ (linkReport_yields fresh ⟨id⟩ reportId requestId later)
  | createCaseEvent segment after =>
      apply routed
      intro later id _
      exact ignore_yields _ _ (createCaseEvent_yields fresh ⟨id⟩ after requestId later rfl)
  | verifyCase segment =>
      apply routed
      intro later id _
      exact ignore_yields _ _ (verifyCase_yields fresh ⟨id⟩ requestId later)
  | resolveCase segment =>
      obtain ⟨reviewerId, known, admin⟩ := gate (Request.platformOnly_path _ rfl)
      apply routed
      intro later id grown
      have keeps := knownFrom_mono grown
      exact ignore_yields _ _ (resolveCase_yields fresh ⟨id⟩ requestId later
        ⟨reviewerId, known.mono keeps, admin.mono keeps⟩)
  | createAlert segment asked =>
      apply routed
      intro later id _
      exact ignore_yields _ _ (createAlert_yields fresh ⟨id⟩ asked requestId later)
  | cancelAlert segment =>
      apply routed
      intro later id _
      exact ignore_yields _ _ (cancel_yields fresh ⟨id⟩ requestId later)

theorem run_honest (server : Server) (job : Job) :
    (server.run job).Honest (server.minds job) (fun _ _ => True) [] := by
  cases job with
  | request fresh headers request =>
      have yields : (server.serve fresh headers request).Yields (minds server headers request)
          (fun _ _ => True) [] := by
        apply restrictIncidentAccess_yields
        intro later gate
        exact handle_yields fresh _ later gate
      exact honest_post _ _ (fun _ _ _ => trivial) _ _ yields
  | edit edit =>
      refine ⟨rfl, fun answer => ?_⟩
      cases answer <;> trivial

/-- In every run of the requests each call is one that its request knows enough for. -/
theorem Server.reaches_minded (server : Server) (jobs : Nat → Job) (rules : Rules incidentMachine)
    (init : Db) (config : Pool) (reached : server.Reaches jobs rules init config) :
    server.Reaches jobs (rules.after recorded fun pid => server.minds (jobs pid)) init config := by
  refine reach_after recorded rules _ (fun _ _ _ => True) (server.pool jobs)
    (fun pid => run_honest server (jobs pid)) _ ?_ config reached
  intro pid
  rfl

end SafeCameroon.Incidents
