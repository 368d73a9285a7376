import SafeCameroon.Aggregate.CaseEffects
import SafeCameroon.Incidents.Calls

namespace SafeCameroon.Incidents

open Table Process

/-- The tables of reports, cases and alerts, with their events and messages, are as they were. -/
def SameIncidents (db after : Db) : Prop :=
  after = { db with
    auditEvents := after.auditEvents, consumers := after.consumers
    subscriptions := after.subscriptions, memberships := after.memberships
    organizations := after.organizations }

def Call.effective : (call : Call) → Except Failure call.Res → Bool
  | .submitAnonymous _, .ok .created => true
  | .markUnderReview _, .ok true => true
  | .createCase _, .ok .created => true
  | .linkReport _ _, .ok .linked => true
  | .applyReview _ _, .ok .applied => true
  | .createAlert _, .ok .created => true
  | .cancelAlert _ _, .ok .cancelled => true
  | .edit _, .ok _ => true
  | _, _ => false

inductive Wrote (env : Env) (db : Db) : (call : Call) → Except Failure call.Res → Db → Prop where
  | idle {call : Call} {answer : Except Failure call.Res} (idle : call.effective answer = false) :
      Wrote env db call answer db
  | submitted {submission : AnonymousReportSubmission} {after : Db}
      (effect : PostgresReportRepository.Submitted env.now submission db after) :
      Wrote env db (.submitAnonymous submission) (.ok .created) after
  | marked {id : ReportId} {after : Db}
      (effect : PostgresReportRepository.markUnderReview id db = .ok (.commit true after)) :
      Wrote env db (.markUnderReview id) (.ok true) after
  | caseCreated {creation : CaseCreation} {reportId : ReportId} {after : Db}
      (effect : PostgresCaseRepository.Created env.now creation reportId db after) :
      Wrote env db (.createCase creation) (.ok .created) after
  | linked {c : Case} {link : CaseReportLink} {after : Db}
      (effect : PostgresCaseRepository.Advanced env.now c none (some link.reportId) link.event
        link.actor link.requestId (caseReportLinkedEventPayload c.id link) db after) :
      Wrote env db (.linkReport c link) (.ok .linked) after
  | reviewed {c : Case} {review : CaseReview} {after : Db}
      (effect : PostgresCaseRepository.Advanced env.now c (some c.status) none review.event
        review.actor review.requestId (caseStatusChangedEventPayload c review) db after) :
      Wrote env db (.applyReview c review) (.ok .applied) after
  | alertCreated {creation : AlertCreation} {after : Db}
      (effect : PostgresAlertRepository.Created env.now creation db after) :
      Wrote env db (.createAlert creation) (.ok .created) after
  | alertCancelled {alert : Alert} {cancellation : AlertCancellation} {after : Db}
      (effect : PostgresAlertRepository.Cancelled env.now alert cancellation db after) :
      Wrote env db (.cancelAlert alert cancellation) (.ok .cancelled) after
  | edited {edit : Edit} {after : Db} (ran : (runCall env (.edit edit) db) = (.ok (), after))
      (same : SameIncidents db after) : Wrote env db (.edit edit) (.ok ()) after

theorem runEdit_ok (env : Env) (edit : Edit) (db after : Db)
    (h : runEdit env edit db = .ok (.commit () after)) :
    after = { db with
      auditEvents := after.auditEvents, consumers := after.consumers
      subscriptions := after.subscriptions, organizations := after.organizations } ∨
      ∃ row, after = { db with memberships := db.memberships ++ [row] } ∧
        row.reviewerId ∉ db.memberships.map (·.reviewerId) ∧
        membershipShape row.role row.organizationId = true := by
  cases edit with
  | createOrganization id =>
      simp only [runEdit, PostgresOrganizationRepository.create, bind_ok, pure, Except.pure,
        Except.ok.injEq, Ending.commit.injEq, true_and] at h
      obtain ⟨_, _, rfl⟩ := h
      exact Or.inl rfl
  | setActive id isActive =>
      simp only [runEdit, PostgresOrganizationRepository.setActive, Except.ok.injEq,
        Ending.commit.injEq, true_and] at h
      subst h
      exact Or.inl rfl
  | setConsumerId id consumerId =>
      simp only [runEdit, PostgresOrganizationRepository.setConsumerId] at h
      split at h
      · simp at h
      · split at h
        · simp at h
        · simp only [Except.ok.injEq, Ending.commit.injEq, true_and] at h
          subst h
          exact Or.inl rfl
  | setTrustGrants id types visibilities =>
      simp only [runEdit, PostgresOrganizationRepository.setTrustGrants, Except.ok.injEq,
        Ending.commit.injEq, true_and] at h
      subst h
      exact Or.inl rfl
  | addMembership reviewerId role organizationId =>
      simp only [runEdit, PostgresOrganizationRepository.addMembership] at h
      split at h
      · simp at h
      · rename_i shaped
        split at h
        · simp at h
        · simp only [bind_ok, pure, Except.pure, Except.ok.injEq, Ending.commit.injEq,
            true_and] at h
          obtain ⟨memberships, inserted, rfl⟩ := h
          obtain ⟨rfl, unused⟩ := insertUnique_ok _ _ _ _ _ inserted
          exact Or.inr ⟨_, rfl, unused, by simpa using shaped⟩
  | createConsumer row =>
      simp only [runEdit, PostgresConsumerRepository.create, bind_ok, pure, Except.pure,
        Except.ok.injEq, Ending.commit.injEq, true_and] at h
      obtain ⟨_, _, rfl⟩ := h
      exact Or.inl rfl
  | createSubscription subscription =>
      simp only [runEdit, PostgresSubscriptionRepository.create, bind_ok, pure, Except.pure,
        Except.ok.injEq, Ending.commit.injEq, true_and] at h
      obtain ⟨_, _, rfl⟩ := h
      exact Or.inl rfl
  | updateSubscription auditEventId subscription actor requestId =>
      simp only [runEdit, bind_ok] at h
      obtain ⟨ending, updated, rest⟩ := h
      cases ending with
      | rollback outcome => simp [pure, Except.pure] at rest
      | commit outcome final =>
          simp only [pure, Except.pure, Except.ok.injEq, Ending.commit.injEq, true_and] at rest
          subst rest
          simp only [PostgresSubscriptionRepository.update] at updated
          split at updated
          · simp only [bind_ok, pure, Except.pure, Except.ok.injEq, Ending.commit.injEq] at updated
            obtain ⟨second, audit, _, rfl⟩ := updated
            obtain ⟨rfl, _⟩ := insertAuditEvent_ok _ _ _ _ _ _ _ _ audit
            exact Or.inl rfl
          · simp [pure, Except.pure] at updated
  | deleteSubscription id =>
      simp only [runEdit, PostgresSubscriptionRepository.delete, Except.ok.injEq,
        Ending.commit.injEq, true_and] at h
      subst h
      exact Or.inl rfl

theorem runEdit_same (env : Env) (edit : Edit) (db after : Db)
    (h : runEdit env edit db = .ok (.commit () after)) : SameIncidents db after := by
  rcases runEdit_ok env edit db after h with same | ⟨row, rfl, _⟩
  · rw [SameIncidents, same]
  · rfl

private theorem wrote_query (call : Call) (env : Env) (db : Db)
    (reads : (runCall env call db).2 = db) (silent : ∀ answer, call.effective answer = false) :
    Wrote env db call (runCall env call db).1 (runCall env call db).2 := by
  rw [reads]
  exact .idle (silent _)

private theorem wrote_transaction {call : Call} (env : Env) (db : Db)
    (body : Db → Except Failure (Ending Db call.Res))
    (runs : runCall env call db = transaction env.fault .database body db)
    (failed : ∀ error, call.effective (.error error) = false)
    (commits : ∀ value after, body db = .ok (.commit value after) →
      Wrote env db call (.ok value) after)
    (rolls : ∀ value, body db = .ok (.rollback value) → Wrote env db call (.ok value) db) :
    Wrote env db call (runCall env call db).1 (runCall env call db).2 := by
  rw [runs]
  rcases transaction_cases env.fault Failure.database body db with
    ⟨error, _, ended⟩ | ⟨value, result, ended⟩ | ⟨value, after, result, ended⟩
  · rw [ended]
    exact .idle (failed error)
  · rw [ended]
    exact rolls value result
  · rw [ended]
    exact commits value after result

theorem runCall_wrote (env : Env) (call : Call) (db : Db) :
    Wrote env db call (runCall env call db).1 (runCall env call db).2 := by
  cases call with
  | recordAndCheck scope sourceKey => exact wrote_query _ env db rfl fun _ => rfl
  | createAttachment reportId => exact wrote_query _ env db rfl fun _ => rfl
  | isSessionRevoked reviewerId issuedAt => exact wrote_query _ env db rfl fun _ => rfl
  | findMembership reviewerId => exact wrote_query _ env db rfl fun _ => rfl
  | findOrganization id => exact wrote_query _ env db rfl fun _ => rfl
  | findSubscriptionsByConsumer id => exact wrote_query _ env db rfl fun _ => rfl
  | findReport id => exact wrote_query _ env db rfl fun _ => rfl
  | findCaseRow id => exact wrote_query _ env db rfl fun _ => rfl
  | findCaseReports id => exact wrote_query _ env db rfl fun _ => rfl
  | findAlert id => exact wrote_query _ env db rfl fun _ => rfl
  | submitAnonymous submission =>
      refine wrote_transaction env db _ rfl (fun _ => rfl) ?_ ?_
      · intro value after result
        obtain ⟨rfl, effect⟩ := PostgresReportRepository.submitAnonymous_effect _ _ _ _ _ result
        exact .submitted effect
      · intro value result
        obtain ⟨_, reportId, rfl, _⟩ :=
          PostgresReportRepository.submitAnonymous_duplicate _ _ _ _ result
        exact .idle rfl
  | markUnderReview id =>
      refine wrote_transaction env db (PostgresReportRepository.markUnderReview id) rfl
        (fun _ => rfl) ?_ ?_
      · intro value after result
        cases value with
        | true => exact .marked result
        | false =>
            simp only [PostgresReportRepository.markUnderReview, Except.ok.injEq,
              Ending.commit.injEq, decide_eq_false_iff_not, not_lt, Nat.le_zero] at result
            obtain ⟨none, rfl⟩ := result
            have same := (List.countP_eq_zero.mp none)
            have table : updateWhere (fun row : ReportRow =>
                decide (row.id = id) && decide (row.status = .received))
                (fun row => { row with status := .underReview }) db.reports = db.reports := by
              rw [updateWhere]
              refine (List.map_congr_left fun row member => ?_).trans (List.map_id _)
              simp only [same row member]
              rfl
            rw [table]
            exact .idle rfl
      · intro value result
        simp [PostgresReportRepository.markUnderReview] at result
  | createCase creation =>
      refine wrote_transaction env db _ rfl (fun _ => rfl) ?_ ?_
      · intro value after result
        obtain ⟨rfl, reportId, effect⟩ := PostgresCaseRepository.create_effect _ _ _ _ _ result
        exact .caseCreated effect
      · intro value result
        obtain rfl := PostgresCaseRepository.create_rollback _ _ _ _ result
        exact .idle rfl
  | linkReport c link =>
      refine wrote_transaction env db _ rfl (fun _ => rfl) ?_ ?_
      · intro value after result
        obtain ⟨rfl, effect⟩ := PostgresCaseRepository.linkReport_effect _ _ _ _ _ _ result
        exact .linked effect
      · intro value result
        have refused := PostgresCaseRepository.linkReport_rollback _ _ _ _ _ result
        cases value with
        | linked => exact absurd rfl refused
        | reportAlreadyLinked => exact .idle rfl
        | conflict => exact .idle rfl
  | applyReview c review =>
      refine wrote_transaction env db _ rfl (fun _ => rfl) ?_ ?_
      · intro value after result
        obtain ⟨rfl, effect⟩ := PostgresCaseRepository.applyReview_effect _ _ _ _ _ _ result
        exact .reviewed effect
      · intro value result
        obtain rfl := PostgresCaseRepository.applyReview_rollback _ _ _ _ _ result
        exact .idle rfl
  | createAlert creation =>
      refine wrote_transaction env db _ rfl (fun _ => rfl) ?_ ?_
      · intro value after result
        obtain ⟨rfl, effect⟩ := PostgresAlertRepository.create_effect _ _ _ _ _ result
        exact .alertCreated effect
      · intro value result
        obtain ⟨_, _, rfl, _⟩ := PostgresAlertRepository.create_duplicate _ _ _ _ result
        exact .idle rfl
  | cancelAlert alert cancellation =>
      refine wrote_transaction env db _ rfl (fun _ => rfl) ?_ ?_
      · intro value after result
        obtain ⟨rfl, effect⟩ := PostgresAlertRepository.cancel_effect _ _ _ _ _ _ result
        exact .alertCancelled effect
      · intro value result
        obtain rfl := PostgresAlertRepository.cancel_conflict _ _ _ _ _ result
        exact .idle rfl
  | edit edit =>
      rcases transaction_cases env.fault Failure.database (runEdit env edit) db with
        ⟨error, _, ended⟩ | ⟨value, _, ended⟩ | ⟨value, after, result, ended⟩
      · rw [runCall, ended]
        exact .idle rfl
      · rw [runCall, ended]
        exact .edited (by rw [runCall, ended]) rfl
      · rw [runCall, ended]
        exact .edited (by rw [runCall, ended]) (runEdit_same env edit db after result)

theorem runCall_idle (env : Env) (call : Call) (db : Db)
    (idle : call.effective (runCall env call db).1 = false) : (runCall env call db).2 = db := by
  have wrote := runCall_wrote env call db
  generalize runCall env call db = ran at wrote idle
  obtain ⟨answer, after⟩ := ran
  simp only at wrote idle ⊢
  cases wrote with
  | idle => rfl
  | submitted => simp [Call.effective] at idle
  | marked => simp [Call.effective] at idle
  | caseCreated => simp [Call.effective] at idle
  | linked => simp [Call.effective] at idle
  | reviewed => simp [Call.effective] at idle
  | alertCreated => simp [Call.effective] at idle
  | alertCancelled => simp [Call.effective] at idle
  | edited => simp [Call.effective] at idle

end SafeCameroon.Incidents
