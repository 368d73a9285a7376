import SafeCameroon.Incidents.CaseRuns

namespace SafeCameroon.Incidents

open Table Process Proc Text

/-- The routes of reports, cases and alerts: those of the requests, and those whose handlers ask for a
reviewer before anything else, whatever they do then. -/
inductive Endpoint where
  | request (request : Request)
  | viewing (path : String) (method : Method) (message : String) (handler : Handler Unit)

namespace Endpoint

def notAuthorized (message : String) (requestId : Uuid) : ApiError :=
  { status := 403, code := "NOT_AUTHORIZED", message, requestId }

/-- The handler of a route that only reviewers may use. -/
def view (verify : String → Option VerifiedSession) (headers : List (String × Bytes))
    (message : String) (handler : Handler Unit) (requestId : Uuid) : Handler Unit := do
  let actor ← Reviewer.actorFromHeaders verify headers requestId
  match authorize actor .viewCase with
  | .error _ => refuse (notAuthorized message requestId)
  | .ok () => handler

def serve (server : Server) (fresh : Supply) (headers : List (String × Bytes)) :
    Endpoint → Handler Unit
  | .request asked => server.serve fresh headers asked
  | .viewing path method message handler =>
      let requestId := requestIdFromHeaders (fresh 4) headers
      OrganizationAccess.restrictIncidentAccess server.verify path method headers requestId
        (view server.verify headers message handler requestId)

end Endpoint

/-- The report of a request with its audit and outbox row. A report is new and received, unless the
identifier drawn for it is that of the report under its key, which then stays as it is. -/
def Submits (requestId : Uuid) (db after : Db) : Prop :=
  ∃ now submission added, submission.requestId = requestId ∧
    (added = [reportRow submission] ∧ submission.report.id ∉ db.reports.map (·.id) ∨
      added = [] ∧ ∃ row ∈ db.reports, row.id = submission.report.id ∧
        row.idempotencyKeyHash = submission.idempotencyKeyHash) ∧
    after = { db with
      reports := db.reports ++ added
      auditEvents := db.auditEvents ++ [reportAuditRow submission]
      outboxEvents := db.outboxEvents ++ [outboxRow now "REPORT" submission.outboxEventId
        submission.report.id.uuid "REPORT_SUBMITTED" (reportSubmittedEventPayload submission)] }

/-- One case moves from `REPORTED` to `UNDER_REVIEW`, with the event of its next version and the audit
and outbox row of this event. -/
def StartsReview (requestId : Uuid) (db after : Db) : Prop :=
  ∃ row ∈ db.cases, row.status = .reported ∧ ∃ now eventId auditEventId outboxEventId,
    after = { db with
      cases := db.cases.map fun other => if other.id = row.id then
        { other with status := .underReview, aggregateVersion := row.aggregateVersion + 1 } else other
      caseEvents := db.caseEvents ++
        [{ id := eventId, caseId := row.id, eventType := .caseUnderReview
           aggregateVersion := row.aggregateVersion + 1
           actorType := Actor.automated.asDatabaseValue, actorId := none }]
      auditEvents := db.auditEvents ++ [auditRow "CASE" auditEventId .automated "CASE_UNDER_REVIEW"
        row.id.uuid requestId db]
      outboxEvents := db.outboxEvents ++ [outboxRow now "CASE" outboxEventId row.id.uuid
        "CASE_UNDER_REVIEW" (.object
          [("case_id", .uuid row.id.uuid),
           ("status", .string CaseStatus.underReview.asDatabaseValue),
           ("aggregate_version", .natural (row.aggregateVersion + 1))])] }

/-- The effects left to a request of those who are not authenticated. -/
def Confined (requestId : Uuid) (db after : Db) : Prop :=
  after = db ∨ Submits requestId db after ∨ StartsReview requestId db after

theorem Confined.refl (requestId : Uuid) (db : Db) : Confined requestId db db := Or.inl rfl

theorem Confined.cases_length (requestId : Uuid) (db after : Db)
    (confined : Confined requestId db after) : after.cases.length = db.cases.length := by
  rcases confined with rfl | ⟨_, _, _, _, _, rfl⟩ | ⟨_, _, _, _, _, _, _, rfl⟩
  · rfl
  · rfl
  · exact List.length_map _

/-- Wherever the program stops, it has left the tables as the relation says. -/
@[reducible] def Leaves (holds : Db → Prop) {α : Type} : Option (Except HandlerError α) → World → Prop :=
  fun _ world => holds world.db

section Handlers

variable {server : Server} {headers : List (String × Bytes)} {pid : Nat} {db : Db} {α β : Type}

theorem ensures_failed (holds : Db → Prop) (error : HandlerError) (world : World)
    (same : world.db = db) (unchanged : holds db) :
    (.fail error : Handler α).Ensures incidentMachine pid (Leaves holds) world := by
  subst same
  exact unchanged

theorem ensures_ask (holds : Db → Prop) (error : ApiError) (call : Call)
    (rest : call.Res → Handler α) (world : World) (same : world.db = db) (unchanged : holds db)
    (reads : ∀ env, (runCall env call db).2 = db)
    (next : ∀ env value later, later.db = db → (runCall env call db).1 = .ok value →
      (rest value).Ensures incidentMachine pid (Leaves holds) later) :
    ((orFail error call).bind rest).Ensures incidentMachine pid (Leaves holds) world := by
  subst same
  refine ensures_perform incidentMachine pid (Leaves holds) call _ rest world unchanged ?_ ?_
  · intro env value answered
    exact next env value _ (reads env) answered
  · intro env failure _
    have kept : holds (runCall env call world.db).2 := (reads env).symm ▸ unchanged
    exact kept

theorem ensures_write (holds : Db → Prop) (error : ApiError) (call : Call)
    (rest : call.Res → Handler α) (world : World) (same : world.db = db) (unchanged : holds db)
    (writes : ∀ env, holds (runCall env call db).2)
    (next : ∀ value later, holds later.db →
      (rest value).Ensures incidentMachine pid (Leaves holds) later) :
    ((orFail error call).bind rest).Ensures incidentMachine pid (Leaves holds) world := by
  subst same
  refine ensures_perform incidentMachine pid (Leaves holds) call _ rest world unchanged ?_ ?_
  · intro env value _
    exact next value _ (writes env)
  · intro env failure _
    exact writes env

theorem ensures_ignore (holds : Db → Prop) (handler : Handler α) (world : World)
    (ensures : handler.Ensures incidentMachine pid (Leaves holds) world) :
    (ignore handler).Ensures incidentMachine pid (Leaves holds) world :=
  ensures_bind incidentMachine pid (Leaves holds) (Leaves holds) handler _ world ensures
    (fun _ kept => kept) (fun _ _ kept => kept) fun _ _ kept => kept

theorem actorFromHeaders_anonymous (anonymous : header "authorization" headers = none)
    (requestId : Uuid) :
    Reviewer.actorFromHeaders server.verify headers requestId = .done .automated := by
  simp [Reviewer.actorFromHeaders, anonymous]

theorem restrictIncidentAccess_anonymous (anonymous : header "authorization" headers = none)
    (path : String) (method : Method) (requestId : Uuid) (next : Handler α) :
    OrganizationAccess.restrictIncidentAccess server.verify path method headers requestId next =
      if OrganizationAccess.platformOnly path method then
        .fail (.api (OrganizationAccess.denied requestId)) else next := by
  unfold OrganizationAccess.restrictIncidentAccess
  rw [actorFromHeaders_anonymous anonymous]
  rfl

theorem ensures_enforceRateLimit (holds : Db → Prop) (scope : RateLimitScope) (requestId : Uuid)
    (rest : Unit → Handler α) (world : World) (same : world.db = db) (unchanged : holds db)
    (next : ∀ later : World, later.db = db →
      (rest ()).Ensures incidentMachine pid (Leaves holds) later) :
    ((Reports.enforceRateLimit scope headers requestId).bind rest).Ensures incidentMachine pid
      (Leaves holds) world := by
  unfold Reports.enforceRateLimit
  rw [Proc.bind_def, Proc.bind_assoc]
  refine ensures_ask holds _ _ _ world same unchanged (fun _ => rfl) ?_
  intro env withinLimit later kept _
  cases withinLimit with
  | true => exact next later kept
  | false => exact ensures_failed holds _ later kept unchanged

theorem submitAnonymous_confined (env : Env) (submission : AnonymousReportSubmission) (db : Db) :
    Confined submission.requestId db (runCall env (.submitAnonymous submission) db).2 := by
  have wrote := runCall_wrote env (.submitAnonymous submission) db
  generalize (runCall env (.submitAnonymous submission) db).1 = answer at wrote
  generalize (runCall env (.submitAnonymous submission) db).2 = after at wrote
  cases wrote with
  | idle => exact .refl _ db
  | submitted effect =>
      have inserted := effect.inserted
      generalize same : after.reports = reports at inserted
      refine Or.inr (Or.inl ⟨env.now, submission, reports.drop db.reports.length, rfl, ?_, ?_⟩)
      · cases inserted with
        | again key stored =>
            refine Or.inr ⟨List.drop_length, ?_⟩
            obtain ⟨row, member, held, drawn⟩ := Keyed.idByKey_some _ _ _ _ _ stored
            exact ⟨row, member, drawn, held.trans key.symm⟩
        | new free => exact Or.inl ⟨List.drop_left, effect.fresh free⟩
      · have reports : reports = db.reports ++ reports.drop db.reports.length := by
          cases inserted with
          | again => simp
          | new => simp
        rw [effect.elsewhere, same, effect.audit, effect.outbox, ← reports]

theorem applyReview_confined (env : Env) (db : Db) (row : CaseRow) (reportIds : List ReportId)
    (before c : Case) (review : CaseReview) (distinct : (db.cases.map (·.id)).Nodup)
    (stored : row ∈ db.cases)
    (built : PostgresCaseRepository.reconstitute row reportIds = .ok before)
    (domain : before.transitionTo review.event.id c.status = .ok (c, review.event))
    (only : c.status = .underReview) (nobody : review.actor = .automated) :
    Confined review.requestId db (runCall env (.applyReview c review) db).2 := by
  have wrote := runCall_wrote env (.applyReview c review) db
  generalize (runCall env (.applyReview c review) db).1 = answer at wrote
  generalize (runCall env (.applyReview c review) db).2 = after at wrote
  cases wrote with
  | idle => exact .refl _ db
  | reviewed effect =>
      have moves := caseMoves_review row reportIds before c review built domain
      have read := PostgresCaseRepository.reconstitute_ok row reportIds before built
      have started : row.status = .reported ∧ review.event.eventType = .caseUnderReview ∧
          review.event.aggregateVersion = row.aggregateVersion + 1 := by
        simp only [Case.transitionTo, read, only] at domain
        split at domain
        · rename_i allowed
          simp only [Except.ok.injEq, Prod.mk.injEq] at domain
          rw [← domain.2]
          refine ⟨?_, rfl, rfl⟩
          cases status : row.status <;> simp [status, isAllowedTransition] at allowed
          rfl
        · simp at domain
      obtain ⟨reported, type, version⟩ := started
      obtain ⟨auditEventId, audit⟩ := effect.audit
      obtain ⟨outboxEventId, outbox⟩ := effect.outbox
      have rows : after.cases = db.cases.map fun other => if other.id = row.id then
          { other with status := .underReview, aggregateVersion := row.aggregateVersion + 1 }
          else other := by
        rw [effect.cases]
        refine List.map_congr_left fun other member => ?_
        by_cases same : other.id = row.id
        · obtain rfl := eq_of_key (·.id) _ distinct other row member stored same
          simp [moves.id, moves.version, advancedCaseRow, only]
        · simp [moves.id, same]
      have event : caseEventRow review.event review.actor =
          { id := review.event.id, caseId := row.id, eventType := .caseUnderReview
            aggregateVersion := row.aggregateVersion + 1
            actorType := Actor.automated.asDatabaseValue, actorId := none } := by
        rw [caseEventRow, moves.subject, type, version, nobody]
        rfl
      refine Or.inr (Or.inr ⟨row, stored, reported, env.now, review.event.id, auditEventId,
        outboxEventId, ?_⟩)
      rw [effect.elsewhere, rows, effect.links, effect.reports, effect.events, audit, outbox, event,
        type, nobody, moves.id, caseStatusChangedEventPayload, moves.id, only, version]
      simp [CaseEventType.asDatabaseValue]

theorem findCaseRow_stored (env : Env) (caseId : CaseId) (row : CaseRow)
    (answered : (runCall env (.findCaseRow caseId) db).1 = .ok (some row)) : row ∈ db.cases := by
  have found := query_ok _ _ _ _ _ answered
  simp only [Except.ok.injEq] at found
  exact (lookup_some _ _ _ _ found).1

theorem ensures_findCase (error : ApiError) (caseId : CaseId) (requestId : Uuid)
    (rest : Case → Handler α) (world : World) (same : world.db = db)
    (next : ∀ row reportIds c later, later.db = db → row ∈ db.cases →
      PostgresCaseRepository.reconstitute row reportIds = .ok c →
      (rest c).Ensures incidentMachine pid (Leaves (Confined requestId db)) later) :
    ((Cases.findById error caseId).bind fun found =>
      (Cases.found requestId found).bind rest).Ensures incidentMachine pid
        (Leaves (Confined requestId db)) world := by
  unfold Cases.findById
  rw [Proc.bind_def, Proc.bind_assoc]
  refine ensures_ask (Confined requestId db) _ _ _ world same (.refl _ db) (fun _ => rfl) ?_
  intro env found second kept answered
  cases found with
  | none => exact ensures_failed _ _ second kept (.refl _ db)
  | some row =>
      have stored := findCaseRow_stored env caseId row answered
      simp only [Proc.bind_def]
      rw [Proc.bind_assoc]
      refine ensures_ask (Confined requestId db) _ _ _ second kept (.refl _ db) (fun _ => rfl) ?_
      intro env reportIds third still _
      split
      · rename_i c built
        exact next row reportIds c third still stored built
      · exact ensures_failed _ _ third still (.refl _ db)
      · exact ensures_failed _ _ third still (.refl _ db)

theorem transitionCase_confined (fresh : Supply) (caseId : CaseId) (after : CaseStatus)
    (requestId : Uuid) (world : World) (same : world.db = db)
    (distinct : (db.cases.map (·.id)).Nodup) :
    (Cases.transitionCase fresh caseId .automated after requestId).Ensures incidentMachine pid
      (Leaves (Confined requestId db)) world := by
  apply ensures_findCase _ caseId requestId _ world same
  intro row reportIds before later kept stored built
  split
  · exact ensures_failed _ _ later kept (.refl _ db)
  · rename_i c review reviewed
    obtain ⟨status, nobody, flat, moved, asked⟩ := reviewCase_ok _ _ _ _ _ _ _ reviewed
    have only : c.status = .underReview := by
      rw [status]
      cases after <;> simp_all [authorizeCaseTransition]
    refine ensures_write (Confined requestId db) _ _ _ later kept (.refl _ db) ?_ ?_
    · intro env
      exact asked ▸ applyReview_confined env db row reportIds before c review distinct stored built
        moved only nobody
    · intro outcome last confined
      cases outcome with
      | applied => exact confined
      | conflict => exact confined

theorem createAnonymousReport_confined (fresh : Supply) (content : String)
    (incidentType : Option IncidentType) (requestId : Uuid) (world : World) (same : world.db = db) :
    (Reports.createAnonymousReport server.sha256 fresh headers content incidentType
      requestId).Ensures incidentMachine pid (Leaves (Confined requestId db)) world := by
  refine ensures_enforceRateLimit (Confined requestId db) _ requestId _ world same (.refl _ db) ?_
  intro later kept
  split
  · exact ensures_failed _ _ later kept (.refl _ db)
  · split
    · exact ensures_failed _ _ later kept (.refl _ db)
    · rename_i submission prepared
      have asked := (prepareAnonymousReport_ok _ _ _ _ _ _ _ prepared).1
      refine ensures_write (Confined requestId db) _ _ _ later kept (.refl _ db)
        (fun env => asked ▸ submitAnonymous_confined env submission db) ?_
      intro outcome last confined
      cases outcome with
      | created => exact confined
      | duplicate reportId => exact confined

theorem transcribeAudio_confined (transcribed : Except ApiError String) (requestId : Uuid)
    (world : World) (same : world.db = db) :
    (Reports.transcribeAudio headers transcribed requestId).Ensures incidentMachine pid
      (Leaves (Confined requestId db)) world := by
  refine ensures_enforceRateLimit (Confined requestId db) _ requestId _ world same (.refl _ db) ?_
  intro later kept
  cases transcribed with
  | error error => exact ensures_failed _ _ later kept (.refl _ db)
  | ok transcript =>
      have confined : Confined requestId db later.db := kept.symm ▸ .refl _ db
      exact confined

theorem createAttachment_confined (reportId : ReportId) (prepared : Except ApiError Unit)
    (requestId : Uuid) (world : World) (same : world.db = db) :
    (Reports.createAttachment headers reportId prepared requestId).Ensures incidentMachine pid
      (Leaves (Confined requestId db)) world := by
  refine ensures_enforceRateLimit (Confined requestId db) _ requestId _ world same (.refl _ db) ?_
  intro later kept
  refine ensures_ask (Confined requestId db) _ _ _ later kept (.refl _ db) (fun _ => rfl) ?_
  intro env found last still _
  cases found with
  | none => exact ensures_failed _ _ last still (.refl _ db)
  | some report =>
      cases prepared with
      | error error => exact ensures_failed _ _ last still (.refl _ db)
      | ok value =>
          have confined : Confined requestId db last.db := still.symm ▸ .refl _ db
          refine ⟨confined, fun env => ?_⟩
          cases fault : env.fault with
          | true =>
              simp only [incidentMachine, World.execute, runCall, query, fault]
              exact confined
          | false =>
              simp only [incidentMachine, World.execute, runCall, query, fault]
              exact confined

theorem pathId_confined (segment : String) (requestId : Uuid) (rest : Uuid → Handler α)
    (world : World) (same : world.db = db)
    (next : ∀ id, (rest id).Ensures incidentMachine pid (Leaves (Confined requestId db)) world) :
    ((pathId requestId segment).bind rest).Ensures incidentMachine pid (Leaves (Confined requestId db))
      world := by
  unfold pathId
  cases Uuid.parseStr segment with
  | none => exact ensures_failed _ _ world same (.refl _ db)
  | some id => exact next id

section Anonymous

variable (anonymous : header "authorization" headers = none)
include anonymous

theorem platformOnly_confined (path : String) (method : Method) (requestId : Uuid)
    (next : Handler α) (world : World) (same : world.db = db)
    (restricted : OrganizationAccess.platformOnly path method = true) :
    (OrganizationAccess.restrictIncidentAccess server.verify path method headers requestId
      next).Ensures incidentMachine pid (Leaves (Confined requestId db)) world := by
  rw [restrictIncidentAccess_anonymous anonymous, restricted, if_pos rfl]
  exact ensures_failed _ _ world same (.refl _ db)

theorem view_confined (path : String) (method : Method) (message : String) (handler : Handler Unit)
    (requestId : Uuid) (world : World) (same : world.db = db) :
    (OrganizationAccess.restrictIncidentAccess server.verify path method headers requestId
      (Endpoint.view server.verify headers message handler requestId)).Ensures incidentMachine pid
      (Leaves (Confined requestId db)) world := by
  rw [restrictIncidentAccess_anonymous anonymous]
  split
  · exact ensures_failed _ _ world same (.refl _ db)
  · unfold Endpoint.view
    rw [actorFromHeaders_anonymous anonymous]
    exact ensures_failed _ _ world same (.refl _ db)

theorem createCaseEvent_confined (fresh : Supply) (caseId : CaseId) (after : CaseStatus)
    (requestId : Uuid) (world : World) (same : world.db = db)
    (distinct : (db.cases.map (·.id)).Nodup) :
    (Cases.createCaseEvent server.verify fresh headers caseId after requestId).Ensures
      incidentMachine pid (Leaves (Confined requestId db)) world := by
  unfold Cases.createCaseEvent
  rw [actorFromHeaders_anonymous anonymous]
  exact transitionCase_confined fresh caseId after requestId world same distinct

theorem verifyCase_confined (fresh : Supply) (caseId : CaseId) (requestId : Uuid) (world : World)
    (same : world.db = db) (distinct : (db.cases.map (·.id)).Nodup) :
    (Cases.verifyCase server.verify fresh headers caseId requestId).Ensures incidentMachine pid
      (Leaves (Confined requestId db)) world := by
  unfold Cases.verifyCase
  rw [actorFromHeaders_anonymous anonymous]
  apply ensures_findCase _ caseId requestId _ world same
  intro row reportIds c later kept _ _
  exact transitionCase_confined fresh caseId .verified requestId later kept distinct

theorem createAlert_confined (fresh : Supply) (caseId : CaseId) (request : Alerts.CreateAlertRequest)
    (requestId : Uuid) (world : World) (same : world.db = db) :
    (Alerts.createAlert server.verify server.sha256 fresh headers caseId request requestId).Ensures
      incidentMachine pid (Leaves (Confined requestId db)) world := by
  unfold Alerts.createAlert
  rw [actorFromHeaders_anonymous anonymous]
  simp only [Proc.bind_def, Proc.bind]
  split
  · exact ensures_failed _ _ world same (.refl _ db)
  · exact ensures_failed _ _ world same (.refl _ db)

theorem cancel_confined (fresh : Supply) (alertId : AlertId) (requestId : Uuid) (world : World)
    (same : world.db = db) :
    (Alerts.cancel server.unicode server.verify fresh headers alertId requestId).Ensures
      incidentMachine pid (Leaves (Confined requestId db)) world := by
  unfold Alerts.cancel
  rw [actorFromHeaders_anonymous anonymous]
  refine ensures_ask (Confined requestId db) _ _ _ world same (.refl _ db) (fun _ => rfl) ?_
  intro env found later kept _
  cases found with
  | none => exact ensures_failed _ _ later kept (.refl _ db)
  | some alert => exact ensures_failed _ _ later kept (.refl _ db)

theorem serve_confined (fresh : Supply) (endpoint : Endpoint)
    (other : ∀ reportId incidentType, endpoint ≠ .request (.createCase reportId incidentType))
    (world : World) (same : world.db = db) (distinct : (db.cases.map (·.id)).Nodup) :
    (endpoint.serve server fresh headers).Ensures incidentMachine pid
      (Leaves (Confined (requestIdFromHeaders (fresh 4) headers) db)) world := by
  cases endpoint with
  | viewing path method message handler =>
      exact view_confined anonymous path method message handler _ world same
  | request request =>
      simp only [Endpoint.serve, Server.serve]
      by_cases restricted : OrganizationAccess.platformOnly request.path .post = true
      · exact platformOnly_confined anonymous _ _ _ _ world same restricted
      rw [restrictIncidentAccess_anonymous anonymous, if_neg restricted]
      cases request with
      | createAnonymousReport content incidentType =>
          exact ensures_ignore _ _ world
            (createAnonymousReport_confined fresh content incidentType _ world same)
      | transcribeAudio transcribed =>
          exact ensures_ignore _ _ world (transcribeAudio_confined transcribed _ world same)
      | createAttachment segment prepared =>
          apply pathId_confined segment _ _ world same
          intro id
          exact ensures_ignore _ _ world (createAttachment_confined ⟨id⟩ prepared _ world same)
      | startReportReview segment =>
          exact absurd (Request.platformOnly_path (.startReportReview segment) rfl) restricted
      | createCase reportId incidentType => exact absurd rfl (other reportId incidentType)
      | linkReport segment reportId =>
          exact absurd (Request.platformOnly_path (.linkReport segment reportId) rfl) restricted
      | createCaseEvent segment after =>
          apply pathId_confined segment _ _ world same
          intro id
          exact ensures_ignore _ _ world
            (createCaseEvent_confined anonymous fresh ⟨id⟩ after _ world same distinct)
      | verifyCase segment =>
          apply pathId_confined segment _ _ world same
          intro id
          exact ensures_ignore _ _ world
            (verifyCase_confined anonymous fresh ⟨id⟩ _ world same distinct)
      | resolveCase segment =>
          exact absurd (Request.platformOnly_path (.resolveCase segment) rfl) restricted
      | createAlert segment request =>
          apply pathId_confined segment _ _ world same
          intro id
          exact ensures_ignore _ _ world
            (createAlert_confined anonymous fresh ⟨id⟩ request _ world same)
      | cancelAlert segment =>
          apply pathId_confined segment _ _ world same
          intro id
          exact ensures_ignore _ _ world (cancel_confined anonymous fresh ⟨id⟩ _ world same)

end Anonymous

end Handlers

/-- The tables take in a case of the report: the report is there and in no case, and no identifier that
was drawn is in use. -/
structure Accepts (fresh : Supply) (reportId : ReportId) (db : Db) : Prop where
  reported : reportId ∈ db.reports.map (·.id)
  unlinked : reportId ∉ db.caseReports.map (·.reportId)
  newCase : (⟨fresh 0⟩ : CaseId) ∉ db.cases.map (·.id)
  newVersion : ((⟨fresh 0⟩ : CaseId), 1) ∉
    db.caseEvents.map fun row => (row.caseId, row.aggregateVersion)
  newEvent : fresh 1 ∉ db.caseEvents.map (·.id)
  newAudit : fresh 2 ∉ db.auditEvents.map (·.id)
  newMessage : fresh 3 ∉ db.outboxEvents.map (·.id)

theorem create_commits_iff (now : Timestamp) (fresh : Supply) (incidentType : IncidentType)
    (reportId : ReportId) (actor : Actor) (requestId : Uuid) (db : Db) :
    (∃ outcome after, PostgresCaseRepository.create now
        (createCaseFromReport fresh incidentType reportId actor requestId) db =
          .ok (.commit outcome after)) ↔ Accepts fresh reportId db := by
  constructor
  · intro ⟨outcome, after, committed⟩
    simp only [PostgresCaseRepository.create, bind_ok] at committed
    obtain ⟨first, head, second, added, linked, link, rest⟩ := committed
    obtain rfl : first = reportId := by
      simpa [createCaseFromReport, Case.create, eq_comm] using head
    simp only [insertCase, bind_ok, pure, Except.pure, Except.ok.injEq] at added
    obtain ⟨cases, inserted, rfl⟩ := added
    obtain ⟨rfl, unused⟩ := insertUnique_ok _ _ _ _ _ inserted
    cases linked with
    | none => simp [pure, Except.pure] at rest
    | some third =>
        obtain ⟨rfl, unlinked, reported⟩ := insertCaseReportLink_ok _ _ _ _ _ link
        simp only [bind_ok, pure, Except.pure, Except.ok.injEq] at rest
        obtain ⟨fourth, event, fifth, audit, sixth, outbox, _⟩ := rest
        obtain ⟨⟨_, unnumbered, newEvent⟩, rfl⟩ := (insertCaseEvent_iff _ _ _ _).mp event
        obtain ⟨rfl, newAudit⟩ := insertAuditEvent_ok _ _ _ _ _ _ _ _ audit
        obtain ⟨_, newMessage⟩ := insertOutboxEvent_ok _ _ _ _ _ _ _ _ outbox
        exact ⟨reported, unlinked, unused, unnumbered, newEvent, newAudit, newMessage⟩
  · intro accepts
    let creation := createCaseFromReport fresh incidentType reportId actor requestId
    have added : insertCase creation.case db =
        .ok { db with cases := db.cases ++ [caseRow creation.case] } := by
      simp only [insertCase, bind_ok]
      exact ⟨_, insertUnique_new _ _ _ _ accepts.newCase, rfl⟩
    have stored : (⟨fresh 0⟩ : CaseId) ∈ (db.cases ++ [caseRow creation.case]).map (·.id) := by
      simp [creation, caseRow, createCaseFromReport, Case.create]
    have linked := insertCaseReportLink_new now creation.case.id reportId
      { db with cases := db.cases ++ [caseRow creation.case] } accepts.unlinked stored accepts.reported
    apply Exists.intro CaseCreationOutcome.created
    apply Exists.intro
    apply (bind_ok _ _ _).mpr
    refine ⟨reportId, rfl, (bind_ok _ _ _).mpr ⟨_, added, (bind_ok _ _ _).mpr ⟨_, linked, ?_⟩⟩⟩
    apply (bind_ok _ _ _).mpr
    exact ⟨_, (insertCaseEvent_iff _ _ _ _).mpr ⟨⟨stored, accepts.newVersion, accepts.newEvent⟩, rfl⟩,
      (bind_ok _ _ _).mpr ⟨_, insertAuditEvent_new _ _ _ _ _ _ _ accepts.newAudit,
        (bind_ok _ _ _).mpr ⟨_, insertOutboxEvent_new _ _ _ _ _ _ _ accepts.newMessage, rfl⟩⟩⟩

def CreatesCase (fresh : Supply) (endpoint : Endpoint) (envs : List Env) (db : Db) : Prop :=
  ∃ reportId incidentType env rest, endpoint = .request (.createCase reportId incidentType) ∧
    envs = env :: rest ∧ env.fault = false ∧ Accepts fresh reportId db

theorem runCall_createCase (env : Env) (fresh : Supply) (incidentType : IncidentType)
    (reportId : ReportId) (actor : Actor) (requestId : Uuid) (db : Db) :
    let after := (runCall env
      (.createCase (createCaseFromReport fresh incidentType reportId actor requestId)) db).2
    (env.fault = false ∧ Accepts fresh reportId db → after.cases.length = db.cases.length + 1) ∧
      (¬(env.fault = false ∧ Accepts fresh reportId db) → after = db) := by
  have commits := create_commits_iff env.now fresh incidentType reportId actor requestId db
  constructor
  · intro ⟨fault, accepts⟩
    obtain ⟨outcome, after, committed⟩ := commits.mpr accepts
    obtain ⟨_, _, effect⟩ := PostgresCaseRepository.create_effect _ _ _ _ _ committed
    simp only [runCall, transaction, fault, committed, Bool.false_eq_true, if_false]
    rw [effect.cases, List.length_append, List.length_singleton]
  · intro refused
    simp only [runCall, transaction]
    cases fault : env.fault with
    | true => rfl
    | false =>
        simp only [Bool.false_eq_true, if_false]
        split
        · rfl
        · rfl
        · rename_i committed
          exact absurd ⟨fault, commits.mp ⟨_, _, committed⟩⟩ refused

theorem alone_createCase (server : Server) (fresh : Supply) (headers : List (String × Bytes))
    (anonymous : header "authorization" headers = none) (reportId : ReportId)
    (incidentType : IncidentType) (pid : Nat) (envs : List Env) (db : Db) :
    (alone incidentMachine pid envs
      (Endpoint.serve server fresh headers (.request (.createCase reportId incidentType)))
      (World.initial db)).2.db =
      envs.head?.elim db fun env => (runCall env (.createCase (createCaseFromReport fresh incidentType
        reportId .automated (requestIdFromHeaders (fresh 4) headers))) db).2 := by
  have exempt : OrganizationAccess.platformOnly "/v1/cases" .post = false := by decide +kernel
  simp only [Endpoint.serve, Server.serve, Request.path]
  rw [restrictIncidentAccess_anonymous anonymous, exempt]
  simp only [Bool.false_eq_true, if_false, Server.handle, Cases.createCase, ignore]
  rw [actorFromHeaders_anonymous anonymous]
  simp only [Proc.bind_def, Proc.bind, Proc.bind_assoc]
  cases envs with
  | nil => rfl
  | cons env envs =>
      unfold orFail
      rw [alone_perform_cons]
      simp only [List.head?_cons, Option.elim_some]
      split
      · rename_i outcome _
        cases outcome with
        | created => simp [Proc.bind, World.initial]
        | reportAlreadyLinked => simp [Proc.bind, refuse, World.initial]
      · rfl

/-- A request without an `Authorization` header keeps to new reports and the start of a review, unless
it creates a case. -/
theorem unauthenticated_confined_iff (server : Server) (fresh : Supply)
    (headers : List (String × Bytes)) (anonymous : header "authorization" headers = none)
    (endpoint : Endpoint) (pid : Nat) (envs : List Env) (db : Db)
    (distinct : (db.cases.map (·.id)).Nodup) :
    Confined (requestIdFromHeaders (fresh 4) headers) db (alone incidentMachine pid envs
        (endpoint.serve server fresh headers) (World.initial db)).2.db ↔
      ¬CreatesCase fresh endpoint envs db := by
  by_cases creating : ∃ reportId incidentType, endpoint = .request (.createCase reportId incidentType)
  · obtain ⟨reportId, incidentType, rfl⟩ := creating
    rw [alone_createCase server fresh headers anonymous]
    have effect := fun env => runCall_createCase env fresh incidentType reportId .automated
      (requestIdFromHeaders (fresh 4) headers) db
    constructor
    · intro confined ⟨_, _, env, rest, same, present, fault, accepts⟩
      obtain ⟨rfl, rfl⟩ := Request.createCase.inj (Endpoint.request.inj same)
      subst present
      have grown := (effect env).1 ⟨fault, accepts⟩
      have kept := confined.cases_length
      simp only [List.head?_cons, Option.elim_some] at kept
      omega
    · intro idle
      cases envs with
      | nil => exact .refl _ db
      | cons env rest =>
          have unchanged := (effect env).2 fun ⟨fault, accepts⟩ =>
            idle ⟨reportId, incidentType, env, rest, rfl, rfl, fault, accepts⟩
          simp only [List.head?_cons, Option.elim_some]
          rw [unchanged]
          exact .refl _ db
  · have confined : (endpoint.serve server fresh headers).Ensures incidentMachine pid
        (Leaves (Confined (requestIdFromHeaders (fresh 4) headers) db)) (World.initial db) :=
      serve_confined anonymous fresh endpoint
        (fun reportId incidentType same => creating ⟨reportId, incidentType, same⟩) _ rfl distinct
    constructor
    · intro _ ⟨reportId, incidentType, _, _, same, _⟩
      exact creating ⟨reportId, incidentType, same⟩
    · intro _
      exact ensures_alone incidentMachine pid _ _ _ confined envs

namespace Scenario

/-- Without any token, the report 1 becomes a case. -/
def anonymousCreation : Endpoint := .request (.createCase ⟨1⟩ .missingChild)

theorem anonymous_request_creates_case :
    let after := (alone incidentMachine 0 [env] (anonymousCreation.serve server (Supply.of 0) [])
      (World.initial store)).2.db
    (store.cases.map (·.id)).Nodup ∧ store.cases = [] ∧
      after.cases.map (·.status) = [.reported] ∧ after.caseReports.map (·.reportId) = [⟨1⟩] ∧
      after.reports.map (·.status) = [.linkedToCase, .received] ∧
      ∀ requestId, ¬Confined requestId store after := by
  refine ⟨by decide, rfl, by decide +kernel, by decide +kernel, by decide +kernel, ?_⟩
  intro requestId confined
  have kept := confined.cases_length
  revert kept
  decide +kernel

/-- Without any token, review of the case 0 starts, and that is all. -/
theorem unauthenticated_confined_review :
    let db := { store with cases := [{ id := ⟨0⟩, incidentType := .missingChild
                                       status := .reported, aggregateVersion := 1 }] }
    let endpoint := Endpoint.request (.createCaseEvent caseSegment .underReview)
    let after := (alone incidentMachine 0 [env, env, env] (endpoint.serve server (Supply.of 0) [])
      (World.initial db)).2.db
    after.cases.map (·.status) = [.underReview] ∧
      Confined (requestIdFromHeaders (Supply.of 0 4) []) db after := by
  refine ⟨by decide +kernel, ?_⟩
  apply (unauthenticated_confined_iff server (Supply.of 0) [] rfl _ 0 _ _ (by decide)).mpr
  intro ⟨_, _, _, _, same, _⟩
  cases same

end Scenario

end SafeCameroon.Incidents
