import SafeCameroon.Aggregate.AlertEffects
import SafeCameroon.Postgres.Cases
import SafeCameroon.Postgres.Reports

namespace SafeCameroon

open Table

def caseRow (c : Case) : CaseRow :=
  { id := c.id, incidentType := c.incidentType, status := c.status, aggregateVersion := c.version }

def caseEventRow (event : CaseEvent) (actor : Actor) : CaseEventRow :=
  { id := event.id, caseId := event.caseId, eventType := event.eventType
    aggregateVersion := event.aggregateVersion
    actorType := actor.asDatabaseValue, actorId := actor.actorId }

def markedReports (reportId : ReportId) (reports : List ReportRow) : List ReportRow :=
  updateWhere (fun row => decide (row.id = reportId))
    (fun row => { row with status := .linkedToCase }) reports

def advancedCaseRow (newStatus : Option CaseStatus) (newVersion : Nat) (row : CaseRow) : CaseRow :=
  { row with status := newStatus.getD row.status, aggregateVersion := newVersion }

def advancedCases (caseId : CaseId) (newStatus : Option CaseStatus) (newVersion : Nat)
    (cases : List CaseRow) : List CaseRow :=
  updateWhere (fun row => decide (row.id = caseId) && decide (row.aggregateVersion + 1 = newVersion))
    (advancedCaseRow newStatus newVersion) cases

theorem insertCaseReportLink_ok (now : Timestamp) (caseId : CaseId) (reportId : ReportId)
    (db after : Db) (h : insertCaseReportLink now caseId reportId db = .ok (some after)) :
    after = { db with caseReports := db.caseReports ++ [{ caseId, reportId, linkedAt := now }] } ∧
      reportId ∉ db.caseReports.map (·.reportId) ∧ reportId ∈ db.reports.map (·.id) := by
  simp only [insertCaseReportLink] at h
  split at h
  · simp at h
  · rename_i unlinked
    split at h
    · simp at h
    · rename_i known
      rw [not_or, not_not, not_not] at known
      exact ⟨by simpa [eq_comm] using h, unlinked, known.2⟩

theorem insertCaseReportLink_new (now : Timestamp) (caseId : CaseId) (reportId : ReportId) (db : Db)
    (unlinked : reportId ∉ db.caseReports.map (·.reportId)) (stored : caseId ∈ db.cases.map (·.id))
    (reported : reportId ∈ db.reports.map (·.id)) :
    insertCaseReportLink now caseId reportId db = .ok (some { db with
      caseReports := db.caseReports ++ [{ caseId, reportId, linkedAt := now }] }) := by
  simp only [insertCaseReportLink, unlinked, stored, reported, not_true_eq_false, or_self, if_false]

theorem insertCaseEvent_iff (event : CaseEvent) (actor : Actor) (db after : Db) :
    insertCaseEvent event actor db = .ok after ↔
      (event.caseId ∈ db.cases.map (·.id) ∧
        (event.caseId, event.aggregateVersion) ∉
          db.caseEvents.map (fun row => (row.caseId, row.aggregateVersion)) ∧
        event.id ∉ db.caseEvents.map (·.id)) ∧
      after = { db with caseEvents := db.caseEvents ++ [caseEventRow event actor] } := by
  by_cases known : event.caseId ∈ db.cases.map (·.id)
  · simp only [insertCaseEvent, known, not_true_eq_false, if_false, true_and]
    constructor
    · intro h
      simp only [bind_ok, pure, Except.pure, Except.ok.injEq] at h
      obtain ⟨versions, free, caseEvents, inserted, rfl⟩ := h
      obtain ⟨_, unnumbered⟩ := insertUnique_ok _ _ _ _ _ free
      obtain ⟨rfl, unused⟩ := insertUnique_ok _ _ _ _ _ inserted
      exact ⟨⟨unnumbered, unused⟩, rfl⟩
    · intro free
      obtain ⟨⟨unnumbered, unused⟩, same⟩ := free
      subst same
      simp only [bind_ok]
      exact ⟨_, insertUnique_new _ _ _ _ unnumbered, _, insertUnique_new _ _ _ _ unused, rfl⟩
  · simp [insertCaseEvent, known]

theorem insertCaseEvent_ok (event : CaseEvent) (actor : Actor) (db after : Db)
    (h : insertCaseEvent event actor db = .ok after) :
    after = { db with caseEvents := db.caseEvents ++ [caseEventRow event actor] } :=
  ((insertCaseEvent_iff event actor db after).mp h).2

theorem advanceCaseVersion_some (caseId : CaseId) (newStatus : Option CaseStatus) (newVersion : Nat)
    (db after : Db) (h : advanceCaseVersion caseId newStatus newVersion db = some after) :
    (∃ row ∈ db.cases, row.id = caseId ∧ row.aggregateVersion + 1 = newVersion) ∧
      after = { db with cases := advancedCases caseId newStatus newVersion db.cases } := by
  simp only [advanceCaseVersion] at h
  split at h
  · rename_i single
    have positive : 0 < db.cases.countP fun row =>
        decide (row.id = caseId) && decide (row.aggregateVersion + 1 = newVersion) := by
      omega
    obtain ⟨row, member, selected⟩ := List.countP_pos_iff.mp positive
    have facts : row.id = caseId ∧ row.aggregateVersion + 1 = newVersion := by
      simpa using selected
    obtain rfl := Option.some.inj h
    exact ⟨⟨row, member, facts⟩, rfl⟩
  · simp at h

namespace PostgresCaseRepository

/-- What committing a new case does. -/
structure Created (now : Timestamp) (creation : CaseCreation) (reportId : ReportId) (db after : Db) :
    Prop where
  first : creation.case.reportIds.head? = some reportId
  unused : creation.case.id ∉ db.cases.map (·.id)
  unlinked : reportId ∉ db.caseReports.map (·.reportId)
  reported : reportId ∈ db.reports.map (·.id)
  cases : after.cases = db.cases ++ [caseRow creation.case]
  links : after.caseReports =
    db.caseReports ++ [{ caseId := creation.case.id, reportId, linkedAt := now }]
  reports : after.reports = markedReports reportId db.reports
  events : after.caseEvents = db.caseEvents ++ [caseEventRow creation.event creation.actor]
  outbox : after.outboxEvents = db.outboxEvents ++
    [outboxRow now "CASE" creation.outboxEventId creation.case.id.uuid
      creation.event.eventType.asDatabaseValue (caseCreatedEventPayload creation)]
  elsewhere : after = { db with
    cases := after.cases, caseReports := after.caseReports, reports := after.reports
    caseEvents := after.caseEvents, auditEvents := after.auditEvents
    outboxEvents := after.outboxEvents }

/-- What committing a change of an existing case does; a link names the report it adds. -/
structure Advanced (now : Timestamp) (c : Case) (newStatus : Option CaseStatus)
    (link : Option ReportId) (event : CaseEvent) (actor : Actor) (requestId : Uuid) (payload : Json)
    (db after : Db) : Prop where
  matched : ∃ row ∈ db.cases, row.id = c.id ∧ row.aggregateVersion + 1 = c.version
  unlinked : ∀ reportId ∈ link, reportId ∉ db.caseReports.map (·.reportId)
  reported : ∀ reportId ∈ link, reportId ∈ db.reports.map (·.id)
  cases : after.cases = advancedCases c.id newStatus c.version db.cases
  links : after.caseReports = db.caseReports ++ link.toList.map fun reportId =>
    { caseId := c.id, reportId, linkedAt := now }
  reports : after.reports = link.elim db.reports fun reportId => markedReports reportId db.reports
  events : after.caseEvents = db.caseEvents ++ [caseEventRow event actor]
  audit : ∃ auditEventId, after.auditEvents = db.auditEvents ++
    [auditRow "CASE" auditEventId actor event.eventType.asDatabaseValue c.id.uuid requestId db]
  outbox : ∃ outboxEventId, after.outboxEvents = db.outboxEvents ++
    [outboxRow now "CASE" outboxEventId c.id.uuid event.eventType.asDatabaseValue payload]
  elsewhere : after = { db with
    cases := after.cases, caseReports := after.caseReports, reports := after.reports
    caseEvents := after.caseEvents, auditEvents := after.auditEvents
    outboxEvents := after.outboxEvents }

theorem create_effect (now : Timestamp) (creation : CaseCreation) (db after : Db)
    (outcome : CaseCreationOutcome) (h : create now creation db = .ok (.commit outcome after)) :
    outcome = .created ∧ ∃ reportId, Created now creation reportId db after := by
  simp only [create, bind_ok] at h
  obtain ⟨reportId, first, second, added, linked, link, rest⟩ := h
  have first : creation.case.reportIds.head? = some reportId := by
    cases head : creation.case.reportIds.head? with
    | none => simp [head, expect] at first
    | some value => simpa [head, expect] using first
  simp only [insertCase, bind_ok, pure, Except.pure, Except.ok.injEq] at added
  obtain ⟨cases, inserted, rfl⟩ := added
  obtain ⟨rfl, unused⟩ := insertUnique_ok _ _ _ _ _ inserted
  cases linked with
  | none => simp [pure, Except.pure] at rest
  | some third =>
      obtain ⟨rfl, unlinked, reported⟩ := insertCaseReportLink_ok _ _ _ _ _ link
      simp only [bind_ok, pure, Except.pure, Except.ok.injEq, Ending.commit.injEq] at rest
      obtain ⟨fourth, event, fifth, audit, sixth, outbox, rfl, rfl⟩ := rest
      obtain rfl := insertCaseEvent_ok _ _ _ _ event
      obtain ⟨rfl, _⟩ := insertAuditEvent_ok _ _ _ _ _ _ _ _ audit
      obtain ⟨rfl, _⟩ := insertOutboxEvent_ok _ _ _ _ _ _ _ _ outbox
      exact ⟨rfl, reportId, ⟨first, unused, unlinked, reported, rfl, rfl, rfl, rfl, rfl, rfl⟩⟩

theorem create_rollback (now : Timestamp) (creation : CaseCreation) (db : Db)
    (outcome : CaseCreationOutcome) (h : create now creation db = .ok (.rollback outcome)) :
    outcome = .reportAlreadyLinked := by
  simp only [create, bind_ok] at h
  obtain ⟨_, _, _, _, linked, _, rest⟩ := h
  cases linked with
  | none => simpa [pure, Except.pure, eq_comm] using rest
  | some third =>
      simp only [bind_ok, pure, Except.pure, Except.ok.injEq, reduceCtorEq, and_false,
        exists_false] at rest

theorem linkReport_effect (now : Timestamp) (c : Case) (link : CaseReportLink) (db after : Db)
    (outcome : CaseLinkOutcome) (h : linkReport now c link db = .ok (.commit outcome after)) :
    outcome = .linked ∧ Advanced now c none (some link.reportId) link.event link.actor
      link.requestId (caseReportLinkedEventPayload c.id link) db after := by
  simp only [linkReport, bind_ok] at h
  obtain ⟨linked, inserted, rest⟩ := h
  cases linked with
  | none => simp [pure, Except.pure] at rest
  | some second =>
      obtain ⟨rfl, unlinked, reported⟩ := insertCaseReportLink_ok _ _ _ _ _ inserted
      simp only at rest
      split at rest
      · simp [pure, Except.pure] at rest
      · rename_i third advanced
        obtain ⟨matched, rfl⟩ := advanceCaseVersion_some _ _ _ _ _ advanced
        simp only [bind_ok, pure, Except.pure, Except.ok.injEq, Ending.commit.injEq] at rest
        obtain ⟨fourth, event, fifth, audit, sixth, outbox, rfl, rfl⟩ := rest
        obtain rfl := insertCaseEvent_ok _ _ _ _ event
        obtain ⟨rfl, _⟩ := insertAuditEvent_ok _ _ _ _ _ _ _ _ audit
        obtain ⟨rfl, _⟩ := insertOutboxEvent_ok _ _ _ _ _ _ _ _ outbox
        exact ⟨rfl, matched, by simpa using unlinked, by simpa using reported, rfl, rfl, rfl, rfl,
          ⟨_, rfl⟩, ⟨_, rfl⟩, rfl⟩

theorem linkReport_rollback (now : Timestamp) (c : Case) (link : CaseReportLink) (db : Db)
    (outcome : CaseLinkOutcome) (h : linkReport now c link db = .ok (.rollback outcome)) :
    outcome ≠ .linked := by
  simp only [linkReport, bind_ok] at h
  obtain ⟨linked, _, rest⟩ := h
  cases linked with
  | none =>
      obtain rfl : CaseLinkOutcome.reportAlreadyLinked = outcome := by
        simpa [pure, Except.pure] using rest
      simp
  | some second =>
      simp only at rest
      split at rest
      · obtain rfl : CaseLinkOutcome.conflict = outcome := by simpa [pure, Except.pure] using rest
        simp
      · simp only [bind_ok, pure, Except.pure, Except.ok.injEq, reduceCtorEq, and_false,
          exists_false] at rest

theorem applyReview_effect (now : Timestamp) (c : Case) (review : CaseReview) (db after : Db)
    (outcome : CaseReviewOutcome) (h : applyReview now c review db = .ok (.commit outcome after)) :
    outcome = .applied ∧ Advanced now c (some c.status) none review.event review.actor
      review.requestId (caseStatusChangedEventPayload c review) db after := by
  simp only [applyReview] at h
  split at h
  · simp [pure, Except.pure] at h
  · rename_i second advanced
    obtain ⟨matched, rfl⟩ := advanceCaseVersion_some _ _ _ _ _ advanced
    simp only [bind_ok, pure, Except.pure, Except.ok.injEq, Ending.commit.injEq] at h
    obtain ⟨third, event, fourth, audit, fifth, outbox, rfl, rfl⟩ := h
    obtain rfl := insertCaseEvent_ok _ _ _ _ event
    obtain ⟨rfl, _⟩ := insertAuditEvent_ok _ _ _ _ _ _ _ _ audit
    obtain ⟨rfl, _⟩ := insertOutboxEvent_ok _ _ _ _ _ _ _ _ outbox
    exact ⟨rfl, matched, by simp, by simp, rfl, by simp, rfl, rfl, ⟨_, rfl⟩, ⟨_, rfl⟩, rfl⟩

theorem applyReview_rollback (now : Timestamp) (c : Case) (review : CaseReview) (db : Db)
    (outcome : CaseReviewOutcome) (h : applyReview now c review db = .ok (.rollback outcome)) :
    outcome = .conflict := by
  simp only [applyReview] at h
  split at h
  · simpa [pure, Except.pure, eq_comm] using h
  · simp only [bind_ok, pure, Except.pure, Except.ok.injEq, reduceCtorEq, and_false,
      exists_false] at h

end PostgresCaseRepository

abbrev ReportInserted (submission : AnonymousReportSubmission) (db : Db) :
    Option ReportId → List ReportRow → Prop :=
  Keyed.Inserted (·.idempotencyKeyHash) (·.id) (reportRow submission) db.reports

theorem addReportRow_ok (row : ReportRow) (reports after : List ReportRow)
    (h : addReportRow row reports = .ok after) :
    after = reports ++ [row] ∧ row.id ∉ reports.map (·.id) := by
  simp only [addReportRow] at h
  split at h
  · simp at h
  · simp only [bind_ok] at h
    obtain ⟨_, _, inserted⟩ := h
    exact insertUnique_ok _ _ _ _ _ inserted

theorem insertReport_ok (submission : AnonymousReportSubmission) (db after : Db)
    (duplicate : Option ReportId) (h : insertReport submission db = .ok (duplicate, after)) :
    ∃ reports, after = { db with reports } ∧ ReportInserted submission db duplicate reports ∧
      (Keyed.taken (·.idempotencyKeyHash) (reportRow submission) db.reports = false →
        submission.report.id ∉ db.reports.map (·.id)) := by
  simp only [insertReport, bind_ok, pure, Except.pure, Except.ok.injEq, Prod.mk.injEq] at h
  obtain ⟨⟨existing, reports⟩, inserted, rfl, rfl⟩ := h
  obtain ⟨insertion, added⟩ := Keyed.insert_ok _ _ _ _ _ _ _
    (fun after added => (addReportRow_ok _ _ after added).1) inserted
  refine ⟨reports, rfl, insertion, fun free => ?_⟩
  exact (addReportRow_ok _ _ reports (added free)).2

def reportAuditRow (submission : AnonymousReportSubmission) : AuditRow :=
  { id := submission.auditEventId, actorType := "ANONYMOUS_REPORTER", actorId := none
    organizationId := none, action := "REPORT_SUBMITTED", resourceType := "REPORT"
    resourceId := some submission.report.id.uuid, requestId := submission.requestId }

namespace PostgresReportRepository

structure Submitted (now : Timestamp) (submission : AnonymousReportSubmission) (db after : Db) :
    Prop where
  inserted : ReportInserted submission db none after.reports
  fresh : Keyed.taken (·.idempotencyKeyHash) (reportRow submission) db.reports = false →
    submission.report.id ∉ db.reports.map (·.id)
  audit : after.auditEvents = db.auditEvents ++ [reportAuditRow submission]
  outbox : after.outboxEvents = db.outboxEvents ++
    [outboxRow now "REPORT" submission.outboxEventId submission.report.id.uuid "REPORT_SUBMITTED"
      (reportSubmittedEventPayload submission)]
  elsewhere : after = { db with
    reports := after.reports, auditEvents := after.auditEvents, outboxEvents := after.outboxEvents }

theorem submitAnonymous_effect (now : Timestamp) (submission : AnonymousReportSubmission)
    (db after : Db) (result : SubmissionResult)
    (h : submitAnonymous now submission db = .ok (.commit result after)) :
    result = .created ∧ Submitted now submission db after := by
  simp only [submitAnonymous, bind_ok] at h
  obtain ⟨⟨duplicate, middle⟩, inserted, rest⟩ := h
  obtain ⟨reports, rfl, insertion, fresh⟩ := insertReport_ok _ _ _ _ inserted
  cases duplicate with
  | some reportId => simp [pure, Except.pure] at rest
  | none =>
      simp only [insertReportAuditEvent, bind_ok, pure, Except.pure, Except.ok.injEq,
        Ending.commit.injEq] at rest
      obtain ⟨second, ⟨auditEvents, audit, rfl⟩, third, outbox, rfl, rfl⟩ := rest
      obtain ⟨rfl, _⟩ := insertUnique_ok _ _ _ _ _ audit
      obtain ⟨rfl, _⟩ := insertOutboxEvent_ok _ _ _ _ _ _ _ _ outbox
      exact ⟨rfl, insertion, fresh, rfl, rfl, rfl⟩

theorem submitAnonymous_duplicate (now : Timestamp) (submission : AnonymousReportSubmission) (db : Db)
    (result : SubmissionResult) (h : submitAnonymous now submission db = .ok (.rollback result)) :
    ∃ hash reportId, result = .duplicate reportId ∧ submission.idempotencyKeyHash = some hash ∧
      Keyed.idByKey (·.idempotencyKeyHash) (·.id) hash db.reports = some reportId ∧
      reportId ≠ submission.report.id := by
  simp only [submitAnonymous, bind_ok] at h
  obtain ⟨⟨duplicate, middle⟩, inserted, rest⟩ := h
  obtain ⟨_, _, insertion, _⟩ := insertReport_ok _ _ _ _ inserted
  cases duplicate with
  | some reportId =>
      simp only [pure, Except.pure, Except.ok.injEq, Ending.rollback.injEq] at rest
      cases insertion with
      | other key stored differs => exact ⟨_, reportId, rest.symm, key, stored, differs⟩
  | none =>
      simp only [bind_ok, pure, Except.pure, Except.ok.injEq, reduceCtorEq, and_false,
        exists_false] at rest

end PostgresReportRepository

end SafeCameroon
