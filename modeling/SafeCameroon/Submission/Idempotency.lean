import SafeCameroon.Submission.Settles

namespace SafeCameroon.Submission

open Table Process ReadCommitted

structure KeyedSubmission (sha256 : String → List UInt8) where
  key : Option String
  submission : AnonymousReportSubmission
  hashed : submission.idempotencyKeyHash = key.map sha256

structure KeyedCreation (sha256 : String → List UInt8) where
  key : Option String
  creation : AlertCreation
  hashed : creation.idempotencyKeyHash = key.map sha256
  created : creation.event.eventType = .alertCreated

theorem createAlertFromCase_keyed (sha256 : String → List UInt8) (fresh : Supply) (c : Case)
    (policy : AlertPolicy) (severity : Severity) (targetGeography : TargetGeography)
    (fields : List AlertFieldValue) (actor : Actor) (requestId : Uuid) (key : Option String)
    (issuer : Option OrganizationId) (creation : AlertCreation)
    (h : createAlertFromCase sha256 fresh c policy severity targetGeography fields actor requestId
      key issuer = .ok creation) :
    creation.idempotencyKeyHash = key.map sha256 ∧ creation.event.eventType = .alertCreated := by
  simp only [createAlertFromCase, bind_ok, pure, Except.pure, Except.ok.injEq] at h
  obtain ⟨_, _, ⟨alert, event⟩, made, rfl⟩ := h
  cases result : Alert.createFromCase fresh c policy severity targetGeography fields issuer with
  | error error => simp [result, Except.mapError] at made
  | ok pair =>
      obtain rfl : pair = (alert, event) := by simpa [result, Except.mapError] using made
      exact ⟨rfl, (Alert.createFromCase_new _ _ _ _ _ _ _ _ _ result).type⟩

def KeyedSubmission.prepare (sha256 : String → List UInt8) (fresh : Supply) (rawContent : String)
    (requestId : Uuid) (key : Option String) (incidentType : Option IncidentType) :
    Except ReportValidationError (KeyedSubmission sha256) :=
  match prepared : prepareAnonymousReport sha256 fresh rawContent requestId key incidentType with
  | .error error => .error error
  | .ok submission =>
      .ok { key, submission, hashed := (prepareAnonymousReport_ok _ _ _ _ _ _ _ prepared).2 }

def KeyedCreation.prepare (sha256 : String → List UInt8) (fresh : Supply) (c : Case)
    (policy : AlertPolicy) (severity : Severity) (targetGeography : TargetGeography)
    (fields : List AlertFieldValue) (actor : Actor) (requestId : Uuid) (key : Option String)
    (issuer : Option OrganizationId) : Except AlertCreationUseCaseError (KeyedCreation sha256) :=
  match prepared : createAlertFromCase sha256 fresh c policy severity targetGeography fields actor
      requestId key issuer with
  | .error error => .error error
  | .ok creation =>
      .ok { key, creation
            hashed := (createAlertFromCase_keyed _ _ _ _ _ _ _ _ _ _ _ _ prepared).1
            created := (createAlertFromCase_keyed _ _ _ _ _ _ _ _ _ _ _ _ prepared).2 }

/-- The calls that meet in the database. -/
inductive Job (sha256 : String → List UInt8) where
  | submit (now : Timestamp) (asked : KeyedSubmission sha256)
  | create (now : Timestamp) (asked : KeyedCreation sha256)

inductive Outcome where
  | submission (result : SubmissionResult)
  | creation (outcome : AlertCreationOutcome)
  deriving DecidableEq, Repr

namespace Job

variable {sha256 : String → List UInt8}

def program : Job sha256 → Transaction Outcome
  | .submit now asked => (submitAnonymous now asked.submission).bind fun result =>
      .done (.submission result)
  | .create now asked => (Submission.create now asked.creation).bind fun outcome =>
      .done (.creation outcome)

def key : Job sha256 → Option String
  | .submit _ asked => asked.key
  | .create _ asked => asked.key

def rowId : Job sha256 → ReportId ⊕ AlertId
  | .submit _ asked => .inl asked.submission.report.id
  | .create _ asked => .inr asked.creation.alert.id

theorem program_settles (job : Job sha256) (db : Db) : Settles settled job.program db [] := by
  cases job with
  | submit now asked =>
      exact settles_map (S := schema) _ _ db [] (settles_submitAnonymous now asked.submission db)
  | create now asked => exact settles_map (S := schema) _ _ db [] (settles_create now asked.creation db)

end Job

def recordsReport (id : ReportId) (row : AuditRow) : Bool :=
  decide (row.resourceType = "REPORT") && decide (row.action = "REPORT_SUBMITTED") &&
    decide (row.resourceId = some id.uuid)

def announcesReport (id : ReportId) (row : OutboxRow) : Bool :=
  decide (row.aggregateType = "REPORT") && decide (row.eventType = "REPORT_SUBMITTED") &&
    decide (row.aggregateId = id.uuid)

def recordsAlert (id : AlertId) (row : AuditRow) : Bool :=
  decide (row.resourceType = "ALERT") && decide (row.action = "ALERT_CREATED") &&
    decide (row.resourceId = some id.uuid)

def announcesAlert (id : AlertId) (row : OutboxRow) : Bool :=
  decide (row.aggregateType = "ALERT") && decide (row.eventType = "ALERT_CREATED") &&
    decide (row.aggregateId = id.uuid)

theorem reportId_uuid (left right : ReportId) : left.uuid = right.uuid ↔ left = right := by
  cases left
  cases right
  simp

theorem alertId_uuid (left right : AlertId) : left.uuid = right.uuid ↔ left = right := by
  cases left
  cases right
  simp

theorem recordsReport_own (id : ReportId) (submission : AnonymousReportSubmission) :
    recordsReport id (reportAuditRow submission) = decide (submission.report.id = id) := by
  simp [recordsReport, reportAuditRow, reportId_uuid]

theorem announcesReport_own (id reportId : ReportId) (now : Timestamp) (outboxEventId : Uuid)
    (payload : Json) :
    announcesReport id (outboxRow now "REPORT" outboxEventId reportId.uuid "REPORT_SUBMITTED" payload) =
      decide (reportId = id) := by
  simp [announcesReport, outboxRow, reportId_uuid]

theorem recordsAlert_own (id alertId : AlertId) (auditEventId requestId : Uuid) (actor : Actor)
    (db : Db) :
    recordsAlert id (auditRow "ALERT" auditEventId actor "ALERT_CREATED" alertId.uuid requestId db) =
      decide (alertId = id) := by
  simp [recordsAlert, auditRow, alertId_uuid]

theorem announcesAlert_own (id alertId : AlertId) (now : Timestamp) (outboxEventId : Uuid)
    (payload : Json) :
    announcesAlert id (outboxRow now "ALERT" outboxEventId alertId.uuid "ALERT_CREATED" payload) =
      decide (alertId = id) := by
  simp [announcesAlert, outboxRow, alertId_uuid]

theorem countP_snoc {Stored : Type} (selected : Stored → Bool) (rows : List Stored) (row : Stored) :
    (rows ++ [row]).countP selected = rows.countP selected + if selected row then 1 else 0 := by
  rw [List.countP_append, List.countP_singleton]

/-- As many rows tell of an id as there are rows with it, which is one or none. -/
structure Tracked {Id : Type} [DecidableEq Id] (ids : List Id) (audits messages : Id → Nat) :
    Prop where
  distinct : ids.Nodup
  audits : ∀ id, audits id = ids.count id
  messages : ∀ id, messages id = ids.count id

theorem Tracked.snoc {Id : Type} [DecidableEq Id] {ids : List Id} {audits messages : Id → Nat}
    (tracked : Tracked ids audits messages) (new : Id) (unused : new ∉ ids)
    (audits' messages' : Id → Nat)
    (audited : ∀ id, audits' id = audits id + if new = id then 1 else 0)
    (sent : ∀ id, messages' id = messages id + if new = id then 1 else 0) :
    Tracked (ids ++ [new]) audits' messages' := by
  have counted : ∀ id, (ids ++ [new]).count id = ids.count id + if new = id then 1 else 0 := by
    intro id
    rw [List.count_append, List.count_singleton]
    simp [beq_iff_eq]
  refine ⟨nodup_snoc ids new tracked.distinct unused, ?_, ?_⟩
  · intro id
    rw [audited, tracked.audits, counted]
  · intro id
    rw [sent, tracked.messages, counted]

theorem Tracked.one {Id : Type} [DecidableEq Id] {ids : List Id} {audits messages : Id → Nat}
    (tracked : Tracked ids audits messages) (id : Id) (member : id ∈ ids) :
    audits id = 1 ∧ messages id = 1 := by
  have single := List.count_eq_one_of_mem tracked.distinct member
  rw [tracked.audits, tracked.messages]
  exact ⟨single, single⟩

theorem Tracked.none {Id : Type} [DecidableEq Id] {ids : List Id} {audits messages : Id → Nat}
    (tracked : Tracked ids audits messages) (id : Id) (absent : id ∉ ids) :
    audits id = 0 ∧ messages id = 0 := by
  have zero := List.count_eq_zero.mpr absent
  rw [tracked.audits, tracked.messages]
  exact ⟨zero, zero⟩

abbrev ReportsTracked (db : Db) : Prop :=
  Tracked (db.reports.map (·.id)) (fun id => db.auditEvents.countP (recordsReport id))
    (fun id => db.outboxEvents.countP (announcesReport id))

abbrev AlertsTracked (db : Db) : Prop :=
  Tracked (db.alerts.map (·.id)) (fun id => db.auditEvents.countP (recordsAlert id))
    (fun id => db.outboxEvents.countP (announcesAlert id))

/-- No two reports share a key and no two alerts do, and every report and every alert has one audit row
and one outbox row of its creation. -/
structure Once (db : Db) : Prop where
  reportKeys : Keyed.Distinct (·.idempotencyKeyHash) db.reports
  alertKeys : Keyed.Distinct (·.idempotencyKeyHash) db.alerts
  reports : ReportsTracked db
  alerts : AlertsTracked db

theorem inserted_new {Stored Id : Type} [DecidableEq Id] (key : Stored → Option (List UInt8))
    (id : Stored → Id) (row : Stored) (table after : List Stored)
    (inserted : Keyed.Inserted key id row table none after) (unused : id row ∉ table.map id) :
    after = table ++ [row] ∧ Keyed.taken key row table = false := by
  cases inserted with
  | again same stored =>
      obtain ⟨other, member, _, equal⟩ := Keyed.idByKey_some _ _ _ _ _ stored
      exact absurd (List.mem_map.mpr ⟨other, member, equal⟩) unused
  | new free => exact ⟨rfl, free⟩

theorem Once.submitted {db after : Db} (once : Once db) (now : Timestamp)
    (submission : AnonymousReportSubmission)
    (effect : PostgresReportRepository.Submitted now submission db after)
    (unused : submission.report.id ∉ db.reports.map (·.id)) :
    Once after ∧ after.reports = db.reports ++ [reportRow submission] := by
  obtain ⟨added, free⟩ := inserted_new _ _ _ _ _ effect.inserted unused
  have alerts : after.alerts = db.alerts := by rw [effect.elsewhere]
  refine ⟨⟨?_, ?_, ?_, ?_⟩, added⟩
  · rw [added]
    exact Keyed.distinct_snoc _ _ _ once.reportKeys free
  · rw [alerts]
    exact once.alertKeys
  · have snoc := once.reports.snoc submission.report.id unused
      (fun id => after.auditEvents.countP (recordsReport id))
      (fun id => after.outboxEvents.countP (announcesReport id))
    unfold ReportsTracked
    rw [added, List.map_append]
    apply snoc
    · intro id
      rw [effect.audit, countP_snoc, recordsReport_own]
      simp
    · intro id
      rw [effect.outbox, countP_snoc, announcesReport_own]
      simp
  · unfold AlertsTracked
    rw [alerts, effect.audit, effect.outbox]
    simpa [recordsAlert, announcesAlert, reportAuditRow, outboxRow] using once.alerts

theorem Once.issued {db after : Db} (once : Once db) (now : Timestamp) (creation : AlertCreation)
    (created : creation.event.eventType = .alertCreated)
    (effect : PostgresAlertRepository.Created now creation db after)
    (unused : creation.alert.id ∉ db.alerts.map (·.id)) :
    Once after ∧ after.alerts = db.alerts ++ [alertRow creation] := by
  obtain ⟨added, free⟩ := inserted_new _ _ _ _ _ effect.inserted unused
  have reports : after.reports = db.reports := by rw [effect.elsewhere]
  have action : creation.event.eventType.asDatabaseValue = "ALERT_CREATED" := by rw [created]; rfl
  refine ⟨⟨?_, ?_, ?_, ?_⟩, added⟩
  · rw [reports]
    exact once.reportKeys
  · rw [added]
    exact Keyed.distinct_snoc _ _ _ once.alertKeys free
  · unfold ReportsTracked
    rw [reports, effect.audit, effect.outbox]
    simpa [recordsReport, announcesReport, auditRow, outboxRow] using once.reports
  · have snoc := once.alerts.snoc creation.alert.id unused
      (fun id => after.auditEvents.countP (recordsAlert id))
      (fun id => after.outboxEvents.countP (announcesAlert id))
    unfold AlertsTracked
    rw [added, List.map_append]
    apply snoc
    · intro id
      rw [effect.audit, countP_snoc, action, recordsAlert_own]
      simp
    · intro id
      rw [effect.outbox, countP_snoc, action, announcesAlert_own]
      simp

section Runs

variable {sha256 : String → List UInt8} (jobs : Nat → Job sha256) (init : Db)

structure DrawsNew (calls : Nat → Prop) : Prop where
  distinct : ∀ pid other, calls pid → calls other → (jobs pid).rowId = (jobs other).rowId →
    pid = other
  reports : ∀ pid now asked, calls pid → jobs pid = .submit now asked →
    asked.submission.report.id ∉ init.reports.map (·.id)
  alerts : ∀ pid now asked, calls pid → jobs pid = .create now asked →
    asked.creation.alert.id ∉ init.alerts.map (·.id)

def KeysDigestApart : Prop :=
  ∀ pid other first second, (jobs pid).key = some first → (jobs other).key = some second →
    sha256 first = sha256 second → first = second

/-- The tables hold what they did and the rows of the calls that committed. -/
structure Stores (calls : Nat → Prop) (db : Db) (done : List Nat) : Prop where
  once : Once db
  begun : ∀ pid ∈ done, calls pid
  reports : ∀ row ∈ db.reports, row ∈ init.reports ∨ ∃ pid ∈ done, ∃ now asked,
    jobs pid = .submit now asked ∧ row = reportRow asked.submission
  alerts : ∀ row ∈ db.alerts, row ∈ init.alerts ∨ ∃ pid ∈ done, ∃ now asked,
    jobs pid = .create now asked ∧ row = alertRow asked.creation

structure ReportDuplicate (asked : KeyedSubmission sha256) (reportId : ReportId) (db : Db) : Prop where
  taken : ∃ key, asked.key = some key ∧ ∃ row ∈ db.reports, row.id = reportId ∧
    row.idempotencyKeyHash = some (sha256 key) ∧ (row ∈ init.reports ∨ ∃ other now theirs,
      jobs other = .submit now theirs ∧ theirs.key = some key ∧ row = reportRow theirs.submission)
  other : reportId ≠ asked.submission.report.id
  absent : asked.submission.report.id ∉ db.reports.map (·.id)
  silent : db.auditEvents.countP (recordsReport asked.submission.report.id) = 0 ∧
    db.outboxEvents.countP (announcesReport asked.submission.report.id) = 0

structure AlertDuplicate (asked : KeyedCreation sha256) (alertId : AlertId) (db : Db) : Prop where
  taken : ∃ key, asked.key = some key ∧ ∃ row ∈ db.alerts, row.id = alertId ∧
    row.idempotencyKeyHash = some (sha256 key) ∧ (row ∈ init.alerts ∨ ∃ other now theirs,
      jobs other = .create now theirs ∧ theirs.key = some key ∧ row = alertRow theirs.creation)
  other : alertId ≠ asked.creation.alert.id
  absent : asked.creation.alert.id ∉ db.alerts.map (·.id)
  silent : db.auditEvents.countP (recordsAlert asked.creation.alert.id) = 0 ∧
    db.outboxEvents.countP (announcesAlert asked.creation.alert.id) = 0

/-- What an answer means for the tables. A call that has committed is among those in `done`. -/
def Answered (pid : Nat) (outcome : Outcome) (db : Db) (done : List Nat) : Prop :=
  match jobs pid, outcome with
  | .submit _ asked, .submission .created => pid ∈ done ∧ reportRow asked.submission ∈ db.reports
  | .submit _ asked, .submission (.duplicate reportId) =>
      pid ∉ done ∧ ReportDuplicate jobs init asked reportId db
  | .create _ asked, .creation .created => pid ∈ done ∧ alertRow asked.creation ∈ db.alerts
  | .create _ asked, .creation (.duplicate alertId) =>
      pid ∉ done ∧ AlertDuplicate jobs init asked alertId db
  | _, _ => False

variable {jobs init} {calls : Nat → Prop} {db : Db} {done : List Nat}

theorem Stores.report_absent (stores : Stores jobs init calls db done) (draws : DrawsNew jobs init calls)
    (pid : Nat) (now : Timestamp) (asked : KeyedSubmission sha256)
    (job : jobs pid = .submit now asked) (called : calls pid) (first : pid ∉ done) :
    asked.submission.report.id ∉ db.reports.map (·.id) := by
  intro member
  obtain ⟨row, stored, same⟩ := List.mem_map.mp member
  rcases stores.reports row stored with before | ⟨other, committed, later, theirs, theirJob, rfl⟩
  · exact draws.reports pid now asked called job (List.mem_map.mpr ⟨row, before, same⟩)
  · have equal : (jobs other).rowId = (jobs pid).rowId := by
      rw [job, theirJob]
      exact congrArg Sum.inl same
    exact first (draws.distinct other pid (stores.begun other committed) called equal ▸ committed)

theorem Stores.alert_absent (stores : Stores jobs init calls db done) (draws : DrawsNew jobs init calls)
    (pid : Nat) (now : Timestamp) (asked : KeyedCreation sha256)
    (job : jobs pid = .create now asked) (called : calls pid) (first : pid ∉ done) :
    asked.creation.alert.id ∉ db.alerts.map (·.id) := by
  intro member
  obtain ⟨row, stored, same⟩ := List.mem_map.mp member
  rcases stores.alerts row stored with before | ⟨other, committed, later, theirs, theirJob, rfl⟩
  · exact draws.alerts pid now asked called job (List.mem_map.mpr ⟨row, before, same⟩)
  · have equal : (jobs other).rowId = (jobs pid).rowId := by
      rw [job, theirJob]
      exact congrArg Sum.inr same
    exact first (draws.distinct other pid (stores.begun other committed) called equal ▸ committed)

/-- What a call that commits does to the tables. -/
inductive Wrote (job : Job sha256) (db after : Db) : Outcome → Prop where
  | report (now asked) (same : job = .submit now asked)
      (effect : PostgresReportRepository.Submitted now asked.submission db after) :
      Wrote job db after (.submission .created)
  | alert (now asked) (same : job = .create now asked)
      (effect : PostgresAlertRepository.Created now asked.creation db after) :
      Wrote job db after (.creation .created)

theorem program_commits (job : Job sha256) (db : Db) (outcome : Outcome) (rows : List Row)
    (h : alone db job.program [] = some (.commit outcome rows)) :
    Wrote job db (schema.view rows db) outcome := by
  cases job with
  | submit now asked =>
      rw [Job.program, alone_map (S := schema)] at h
      obtain ⟨ending, ended, same⟩ := Option.map_eq_some_iff.mp h
      have atomic := alone_submitAnonymous now asked.submission db ending ended
      cases ending with
      | rollback value => cases same
      | commit value written =>
          obtain ⟨rfl, rfl⟩ := Ending.commit.inj same
          obtain ⟨created, effect⟩ :=
            PostgresReportRepository.submitAnonymous_effect _ _ _ _ _ atomic
          obtain rfl : value = .created := created
          exact .report now asked rfl effect
  | create now asked =>
      rw [Job.program, alone_map (S := schema)] at h
      obtain ⟨ending, ended, same⟩ := Option.map_eq_some_iff.mp h
      have atomic := alone_create now asked.creation db ending ended
      cases ending with
      | rollback value => cases same
      | commit value written =>
          obtain ⟨rfl, rfl⟩ := Ending.commit.inj same
          obtain ⟨created, effect⟩ := PostgresAlertRepository.create_effect _ _ _ _ _ atomic
          obtain rfl : value = .created := created
          exact .alert now asked rfl effect

/-- What a call that rolls back has found. -/
inductive Found (job : Job sha256) (db : Db) : Outcome → Prop where
  | report (now asked key reportId) (same : job = .submit now asked) (keyed : asked.key = some key)
      (stored : Keyed.idByKey (·.idempotencyKeyHash) (·.id) (sha256 key) db.reports = some reportId)
      (other : reportId ≠ asked.submission.report.id) :
      Found job db (.submission (.duplicate reportId))
  | alert (now asked key alertId) (same : job = .create now asked) (keyed : asked.key = some key)
      (stored : Keyed.idByKey (·.idempotencyKeyHash) (·.id) (sha256 key) db.alerts = some alertId)
      (other : alertId ≠ asked.creation.alert.id) :
      Found job db (.creation (.duplicate alertId))

theorem program_rollsBack (job : Job sha256) (db : Db) (outcome : Outcome)
    (h : alone db job.program [] = some (.rollback outcome)) : Found job db outcome := by
  cases job with
  | submit now asked =>
      rw [Job.program, alone_map (S := schema)] at h
      obtain ⟨ending, ended, same⟩ := Option.map_eq_some_iff.mp h
      have atomic := alone_submitAnonymous now asked.submission db ending ended
      cases ending with
      | commit value written => cases same
      | rollback value =>
          obtain rfl := Ending.rollback.inj same
          obtain ⟨hash, reportId, result, hashed, stored, other⟩ :=
            PostgresReportRepository.submitAnonymous_duplicate _ _ _ _ atomic
          obtain rfl : value = .duplicate reportId := result
          rw [asked.hashed] at hashed
          obtain ⟨key, keyed, rfl⟩ := Option.map_eq_some_iff.mp hashed
          exact .report now asked key reportId rfl keyed stored other
  | create now asked =>
      rw [Job.program, alone_map (S := schema)] at h
      obtain ⟨ending, ended, same⟩ := Option.map_eq_some_iff.mp h
      have atomic := alone_create now asked.creation db ending ended
      cases ending with
      | commit value written => cases same
      | rollback value =>
          obtain rfl := Ending.rollback.inj same
          obtain ⟨hash, alertId, result, hashed, stored, other⟩ :=
            PostgresAlertRepository.create_duplicate _ _ _ _ atomic
          obtain rfl : value = .duplicate alertId := result
          rw [asked.hashed] at hashed
          obtain ⟨key, keyed, rfl⟩ := Option.map_eq_some_iff.mp hashed
          exact .alert now asked key alertId rfl keyed stored other

theorem Stores.commits (stores : Stores jobs init calls db done) (draws : DrawsNew jobs init calls)
    (pid : Nat) (called : calls pid) (first : pid ∉ done) (after : Db) (outcome : Outcome)
    (wrote : Wrote (jobs pid) db after outcome) :
    Stores jobs init calls after (pid :: done) ∧ Answered jobs init pid outcome after (pid :: done) ∧
      (∀ row ∈ db.reports, row ∈ after.reports) ∧ ∀ row ∈ db.alerts, row ∈ after.alerts := by
  have reports : ∀ row ∈ db.reports, row ∈ init.reports ∨ ∃ other ∈ pid :: done, ∃ now asked,
      jobs other = .submit now asked ∧ row = reportRow asked.submission := by
    intro row stored
    rcases stores.reports row stored with before | ⟨other, committed, made⟩
    · exact Or.inl before
    · exact Or.inr ⟨other, List.mem_cons_of_mem pid committed, made⟩
  have alerts : ∀ row ∈ db.alerts, row ∈ init.alerts ∨ ∃ other ∈ pid :: done, ∃ now asked,
      jobs other = .create now asked ∧ row = alertRow asked.creation := by
    intro row stored
    rcases stores.alerts row stored with before | ⟨other, committed, made⟩
    · exact Or.inl before
    · exact Or.inr ⟨other, List.mem_cons_of_mem pid committed, made⟩
  have mine : pid ∈ pid :: done := List.mem_cons_self
  have begun : ∀ other ∈ pid :: done, calls other := by
    intro other member
    rcases List.mem_cons.mp member with rfl | before
    · exact called
    · exact stores.begun other before
  cases wrote with
  | report now asked same effect =>
      have unused := stores.report_absent draws pid now asked same called first
      obtain ⟨once, added⟩ := stores.once.submitted now asked.submission effect unused
      have kept : after.alerts = db.alerts := by rw [effect.elsewhere]
      refine ⟨⟨once, begun, ?_, kept ▸ alerts⟩, ?_, ?_, ?_⟩
      · intro row member
        rw [added, List.mem_append, List.mem_singleton] at member
        rcases member with before | rfl
        · exact reports row before
        · exact Or.inr ⟨pid, mine, now, asked, same, rfl⟩
      · simp only [Answered, same]
        exact ⟨mine, by simp [added]⟩
      · intro row member
        rw [added]
        exact List.mem_append_left _ member
      · intro row member
        rw [kept]
        exact member
  | alert now asked same effect =>
      have unused := stores.alert_absent draws pid now asked same called first
      obtain ⟨once, added⟩ :=
        stores.once.issued now asked.creation asked.created effect unused
      have kept : after.reports = db.reports := by rw [effect.elsewhere]
      refine ⟨⟨once, begun, kept ▸ reports, ?_⟩, ?_, ?_, ?_⟩
      · intro row member
        rw [added, List.mem_append, List.mem_singleton] at member
        rcases member with before | rfl
        · exact alerts row before
        · exact Or.inr ⟨pid, mine, now, asked, same, rfl⟩
      · simp only [Answered, same]
        exact ⟨mine, by simp [added]⟩
      · intro row member
        rw [kept]
        exact member
      · intro row member
        rw [added]
        exact List.mem_append_left _ member

theorem Stores.rollsBack (stores : Stores jobs init calls db done) (draws : DrawsNew jobs init calls)
    (digest : KeysDigestApart jobs) (pid : Nat) (called : calls pid) (first : pid ∉ done)
    (outcome : Outcome) (found : Found (jobs pid) db outcome) :
    Answered jobs init pid outcome db done := by
  cases found with
  | report now asked key reportId same keyed stored other =>
      have absent := stores.report_absent draws pid now asked same called first
      obtain ⟨row, member, hashed, equal⟩ := Keyed.idByKey_some _ _ _ _ _ stored
      simp only [Answered, same]
      refine ⟨first, ⟨key, keyed, row, member, equal, hashed, ?_⟩, other, absent,
        stores.once.reports.none _ absent⟩
      rcases stores.reports row member with before | ⟨maker, _, later, theirs, job, rfl⟩
      · exact Or.inl before
      · have theirHash : theirs.key.map sha256 = some (sha256 key) := theirs.hashed ▸ hashed
        obtain ⟨theirKey, theirKeyed, digests⟩ := Option.map_eq_some_iff.mp theirHash
        have makerKey : (jobs maker).key = some theirKey := by rw [job]; exact theirKeyed
        have pidKey : (jobs pid).key = some key := by rw [same]; exact keyed
        obtain rfl := digest maker pid theirKey key makerKey pidKey digests
        exact Or.inr ⟨maker, later, theirs, job, theirKeyed, rfl⟩
  | alert now asked key alertId same keyed stored other =>
      have absent := stores.alert_absent draws pid now asked same called first
      obtain ⟨row, member, hashed, equal⟩ := Keyed.idByKey_some _ _ _ _ _ stored
      simp only [Answered, same]
      refine ⟨first, ⟨key, keyed, row, member, equal, hashed, ?_⟩, other, absent,
        stores.once.alerts.none _ absent⟩
      rcases stores.alerts row member with before | ⟨maker, _, later, theirs, job, rfl⟩
      · exact Or.inl before
      · have theirHash : theirs.key.map sha256 = some (sha256 key) := theirs.hashed ▸ hashed
        obtain ⟨theirKey, theirKeyed, digests⟩ := Option.map_eq_some_iff.mp theirHash
        have makerKey : (jobs maker).key = some theirKey := by rw [job]; exact theirKeyed
        have pidKey : (jobs pid).key = some key := by rw [same]; exact keyed
        obtain rfl := digest maker pid theirKey key makerKey pidKey digests
        exact Or.inr ⟨maker, later, theirs, job, theirKeyed, rfl⟩

theorem Answered.lasts (pid other : Nat) (outcome : Outcome) (after : Db)
    (draws : DrawsNew jobs init calls) (called : calls pid)
    (answered : Answered jobs init pid outcome db done) (differs : other ≠ pid)
    (stores : Stores jobs init calls after (other :: done))
    (reports : ∀ row ∈ db.reports, row ∈ after.reports)
    (alerts : ∀ row ∈ db.alerts, row ∈ after.alerts) :
    Answered jobs init pid outcome after (other :: done) := by
  have unfinished : pid ∉ done → pid ∉ other :: done := by
    intro first member
    rcases List.mem_cons.mp member with same | before
    · exact differs same.symm
    · exact first before
  cases job : jobs pid with
  | submit now asked =>
      cases outcome with
      | creation outcome => simp [Answered, job] at answered
      | submission result =>
          cases result with
          | created =>
              simp only [Answered, job] at answered ⊢
              exact ⟨List.mem_cons_of_mem other answered.1, reports _ answered.2⟩
          | duplicate reportId =>
              simp only [Answered, job] at answered ⊢
              obtain ⟨first, ⟨key, keyed, row, member, found⟩, another, _, _⟩ := answered
              have absent := stores.report_absent draws pid now asked job called (unfinished first)
              exact ⟨unfinished first, ⟨key, keyed, row, reports row member, found⟩, another, absent,
                stores.once.reports.none _ absent⟩
  | create now asked =>
      cases outcome with
      | submission result => simp [Answered, job] at answered
      | creation outcome =>
          cases outcome with
          | created =>
              simp only [Answered, job] at answered ⊢
              exact ⟨List.mem_cons_of_mem other answered.1, alerts _ answered.2⟩
          | duplicate alertId =>
              simp only [Answered, job] at answered ⊢
              obtain ⟨first, ⟨key, keyed, row, member, found⟩, another, _, _⟩ := answered
              have absent := stores.alert_absent draws pid now asked job called (unfinished first)
              exact ⟨unfinished first, ⟨key, keyed, row, alerts row member, found⟩, another, absent,
                stores.once.alerts.none _ absent⟩

end Runs

/-- Under each key there is at most one report and at most one alert, with one audit row and one outbox
row each, and every call answers what it did. -/
structure Idempotent {sha256 : String → List UInt8} (jobs : Nat → Job sha256) (init : Db)
    (config : Config (machine schema) Failure Outcome) : Prop where
  reportKeys : Keyed.Distinct (·.idempotencyKeyHash) config.state.committed.reports
  alertKeys : Keyed.Distinct (·.idempotencyKeyHash) config.state.committed.alerts
  reports : ∀ row ∈ config.state.committed.reports,
    config.state.committed.auditEvents.countP (recordsReport row.id) = 1 ∧
      config.state.committed.outboxEvents.countP (announcesReport row.id) = 1
  alerts : ∀ row ∈ config.state.committed.alerts,
    config.state.committed.auditEvents.countP (recordsAlert row.id) = 1 ∧
      config.state.committed.outboxEvents.countP (announcesAlert row.id) = 1
  answers : ∀ pid outcome, config.slots pid = .active (.done outcome) →
    Answered jobs init pid outcome config.state.committed config.state.commits

theorem submissions_are_idempotent (sha256 : String → List UInt8) (jobs : Nat → Job sha256)
    (digest : KeysDigestApart jobs) (init : Db) (once : Once init)
    (config : Config (machine schema) Failure Outcome)
    (reached : Reach (rules schema) (fun pid => (jobs pid).program)
      (initially (State.initial init)) config)
    (draws : DrawsNew jobs init fun pid => config.slots pid ≠ .waiting) :
    Idempotent jobs init config := by
  have runs := serial_rule (S := schema) lawful (fun pid db => (jobs pid).program_settles db)
    (Stores jobs init fun pid => config.slots pid ≠ .waiting) (Answered jobs init)
    (fun pid => config.slots pid ≠ .waiting) init
    ⟨once, (fun pid member => by cases member), fun row member => Or.inl member,
      fun row member => Or.inl member⟩ ?_ ?_ ?_ config reached fun pid begun => begun
  · obtain ⟨stores, answers⟩ := runs
    refine ⟨stores.once.reportKeys, stores.once.alertKeys, ?_, ?_, answers⟩
    · intro row member
      exact stores.once.reports.one row.id (List.mem_map.mpr ⟨row, member, rfl⟩)
    · intro row member
      exact stores.once.alerts.one row.id (List.mem_map.mpr ⟨row, member, rfl⟩)
  · intro db done pid outcome rows called stores first ends
    have wrote :=
      stores.commits draws pid called first _ outcome (program_commits _ db outcome rows ends)
    exact ⟨wrote.1, wrote.2.1⟩
  · intro db done pid outcome called stores first ends
    exact stores.rollsBack draws digest pid called first outcome (program_rollsBack _ db outcome ends)
  · intro db done pid outcome other ended rows called others stores answered differs first ends
    have later := stores.commits draws other others first _ ended (program_commits _ db ended rows ends)
    exact answered.lasts pid other outcome _ draws called differs later.1 later.2.2.1 later.2.2.2

namespace Scenario

def digest : String → List UInt8 := Text.asciiBytes

def prepared (caller : Nat) : Except ReportValidationError (KeyedSubmission digest) :=
  KeyedSubmission.prepare digest (Supply.of caller) "A child is missing." 0 (some "retry-01") none

def retried (caller : Nat) : KeyedSubmission digest :=
  (prepared caller).toOption.get (by rfl)

def verified : Case :=
  { id := ⟨1⟩, incidentType := .missingChild, status := .verified, reportIds := [], version := 3 }

def issued : KeyedCreation digest :=
  (KeyedCreation.prepare digest (Supply.of 3) verified .missingChildCommunityV1 .high
    { text := "Douala", trimmed := TargetGeography.douala_trimmed
      nonblank := TargetGeography.douala_nonblank }
    [{ field := .safeDescriptionEn, value := "A girl of six" }] (.reviewer 6) 0 (some "alert-01")
    none).toOption.get (by rfl)

def jobs (pid : Nat) : Job digest :=
  if pid = 2 then .create 0 issued else .submit 0 (retried (if pid = 0 then 1 else 2))

def empty : Db :=
  { Db.empty with cases :=
    [{ id := ⟨1⟩, incidentType := .missingChild, status := .verified, aggregateVersion := 3 }] }

/-- The rows that a call commits when it runs alone. -/
def rowsOf (db : Db) (job : Job digest) : List Row :=
  match alone db job.program [] with
  | some (.commit _ rows) => rows
  | _ => []

def first : Db := schema.view (rowsOf empty (jobs 0)) empty

theorem first_commits : alone empty (jobs 0).program [] =
    some (.commit (.submission .created) (rowsOf empty (jobs 0))) := by rfl

theorem second_rollsBack : alone first (jobs 1).program [] =
    some (.rollback (.submission (.duplicate ⟨Supply.of 1 1⟩))) := by rfl

theorem third_commits : alone first (jobs 2).program [] =
    some (.commit (.creation .created) (rowsOf first (jobs 2))) := by rfl

/-- The retry of a submission whose answer was lost finds its first report, and an alert is created
beside them. -/
theorem retry_is_idempotent : ∃ config : Config (machine schema) Failure Outcome,
    config.slots 0 = .active (.done (.submission .created)) ∧
      config.slots 1 = .active (.done (.submission (.duplicate ⟨Supply.of 1 1⟩))) ∧
      config.slots 2 = .active (.done (.creation .created)) ∧ Idempotent jobs empty config := by
  let start : Config (machine schema) Failure Outcome := initially (State.initial empty)
  have origin : Reach (rules schema) (fun pid => (jobs pid).program) start start := .start
  obtain ⟨middle, reached, quiet, slots, store⟩ := reach_whole (S := schema) start 0 start origin rfl
    (fun _ => rfl) _ first_commits
  have waiting : middle.slots 1 = .waiting := by rw [slots]; rfl
  have now : middle.state.committed = first := store
  obtain ⟨later, again, calm, laterSlots, kept⟩ := reach_whole (S := schema) start 1 middle reached
    waiting quiet _ (by rw [now]; exact second_rollsBack)
  have same : later.state.committed = first := kept.trans now
  have third : later.slots 2 = .waiting := by rw [laterSlots, slots]; rfl
  obtain ⟨final, arrived, _, lastSlots, _⟩ := reach_whole (S := schema) start 2 later again third calm _
    (by rw [same]; exact third_commits)
  rw [laterSlots, slots] at lastSlots
  have begun : ∀ pid, final.slots pid ≠ .waiting → pid = 0 ∨ pid = 1 ∨ pid = 2 := by
    intro pid running
    by_contra neither
    rw [not_or, not_or] at neither
    rw [lastSlots, setSlot_other _ _ _ _ neither.2.2, setSlot_other _ _ _ _ neither.2.1,
      setSlot_other _ _ _ _ neither.1] at running
    exact running rfl
  refine ⟨final, by rw [lastSlots]; rfl, by rw [lastSlots]; rfl, by rw [lastSlots]; rfl,
    submissions_are_idempotent digest jobs ?_ empty ?_ final arrived ⟨?_, ?_, ?_⟩⟩
  · intro pid other one two mine theirs
    have keys : ∀ pid, (jobs pid).key = some (if pid = 2 then "alert-01" else "retry-01") := by
      intro pid
      unfold jobs
      split
      · rfl
      · rfl
    obtain rfl := Option.some.inj ((keys pid).symm.trans mine)
    obtain rfl := Option.some.inj ((keys other).symm.trans theirs)
    have apart : digest "alert-01" ≠ digest "retry-01" := by decide
    by_cases creates : pid = 2
    · rw [if_pos creates]
      by_cases also : other = 2
      · rw [if_pos also]
        exact fun _ => rfl
      · rw [if_neg also]
        exact fun same => absurd same apart
    · rw [if_neg creates]
      by_cases also : other = 2
      · rw [if_pos also]
        exact fun same => absurd same.symm apart
      · rw [if_neg also]
        exact fun _ => rfl
  · exact ⟨List.nodup_nil, List.nodup_nil, ⟨List.nodup_nil, fun _ => rfl, fun _ => rfl⟩,
      ⟨List.nodup_nil, fun _ => rfl, fun _ => rfl⟩⟩
  · intro pid other mine theirs same
    rcases begun pid mine with rfl | rfl | rfl <;> rcases begun other theirs with rfl | rfl | rfl
    all_goals first | rfl | exact absurd same (by decide)
  · intro pid now asked _ _ member
    cases member
  · intro pid now asked _ _ member
    cases member

end Scenario

end SafeCameroon.Submission
