import SafeCameroon.Submission.Laws

namespace SafeCameroon.Submission

open Table Process ReadCommitted

section Held

variable (db : Db)

theorem held_reportId (id : ReportId) : held (.reportId id) db ↔ id ∈ db.reports.map (·.id) := by
  simp [held, index, Row.entries, eq_comm]

theorem held_reportToken (hash : List UInt8) :
    held (.reportToken hash) db ↔ hash ∈ db.reports.map (·.followUpTokenHash) := by
  simp [held, index, Row.entries, eq_comm]

theorem held_alertId (id : AlertId) : held (.alertId id) db ↔ id ∈ db.alerts.map (·.id) := by
  simp [held, index, Row.entries, eq_comm]

theorem held_alertField (alertId : AlertId) (field : AlertField) :
    held (.alertField alertId field) db ↔
      (alertId, field) ∈ db.alertFields.map fun row => (row.alertId, row.field) := by
  simp [held, index, Row.entries, eq_comm]

theorem held_alertVersion (alertId : AlertId) (version : Nat) :
    held (.alertVersion alertId version) db ↔
      (alertId, version) ∈ db.alertEvents.map fun row => (row.alertId, row.aggregateVersion) := by
  simp [held, index, Row.entries, eq_comm]

theorem held_alertEvent (id : Uuid) : held (.alertEvent id) db ↔ id ∈ db.alertEvents.map (·.id) := by
  simp [held, index, Row.entries, eq_comm]

theorem held_audit (id : Uuid) : held (.audit id) db ↔ id ∈ db.auditEvents.map (·.id) := by
  simp [held, index, Row.entries, eq_comm]

theorem held_outbox (id : Uuid) : held (.outbox id) db ↔ id ∈ db.outboxEvents.map (·.id) := by
  simp [held, index, Row.entries, eq_comm]

end Held

section Statements

variable (db : Db) (answer : Unit) (rows : List Row)

theorem exec_insertAuditEvent (resourceType : String) (auditEventId : Uuid) (actor : Actor)
    (action : String) (resourceId requestId : Uuid)
    (h : exec (.insertAuditEvent resourceType auditEventId actor action resourceId requestId) db =
      .ok (answer, rows)) :
    SafeCameroon.insertAuditEvent resourceType auditEventId actor action resourceId requestId db =
      .ok (schema.view rows db) := by
  obtain ⟨_, rfl, free⟩ := insertRow_ok _ _ _ _ _ h
  have unused := free (.audit auditEventId) (by simp [Row.entries, auditRow])
  rw [held_audit] at unused
  exact insertAuditEvent_new _ _ _ _ _ _ db unused

theorem exec_insertReportAuditEvent (submission : AnonymousReportSubmission)
    (h : exec (.insertReportAuditEvent submission) db = .ok (answer, rows)) :
    SafeCameroon.insertReportAuditEvent submission db = .ok (schema.view rows db) := by
  obtain ⟨_, rfl, free⟩ := insertRow_ok _ _ _ _ _ h
  have unused := free (.audit submission.auditEventId) (by simp [Row.entries, reportAuditRow])
  rw [held_audit] at unused
  apply (bind_ok _ _ _).mpr
  exact ⟨_, insertUnique_new _ _ _ _ unused, rfl⟩

theorem exec_insertOutboxEvent (now : Timestamp) (aggregateType : String)
    (outboxEventId aggregateId : Uuid) (eventType : String) (payload : Json)
    (h : exec (.insertOutboxEvent now aggregateType outboxEventId aggregateId eventType payload) db =
      .ok (answer, rows)) :
    SafeCameroon.insertOutboxEvent now aggregateType outboxEventId aggregateId eventType payload db =
      .ok (schema.view rows db) := by
  obtain ⟨_, rfl, free⟩ := insertRow_ok _ _ _ _ _ h
  have unused := free (.outbox outboxEventId) (by simp [Row.entries, outboxRow])
  rw [held_outbox] at unused
  exact insertOutboxEvent_new _ _ _ _ _ _ db unused

theorem exec_insertAlertEvent (event : AlertEvent) (actor : Actor)
    (h : exec (.insertAlertEvent event actor) db = .ok (answer, rows)) :
    SafeCameroon.insertAlertEvent event actor db = .ok (schema.view rows db) := by
  obtain ⟨_, rfl, free⟩ := insertRow_ok _ _ _ _ _ h
  have unnumbered := free (.alertVersion event.alertId event.aggregateVersion)
    (by simp [Row.entries, alertEventRow])
  have unused := free (.alertEvent event.id) (by simp [Row.entries, alertEventRow])
  rw [held_alertVersion] at unnumbered
  rw [held_alertEvent] at unused
  apply (bind_ok _ _ _).mpr
  refine ⟨_, insertUnique_new _ _ _ _ unnumbered, ?_⟩
  apply (bind_ok _ _ _).mpr
  exact ⟨_, insertUnique_new _ _ _ _ unused, rfl⟩

theorem exec_insertReport (row : ReportRow)
    (h : exec (.insertReport row) db = .ok (answer, rows)) :
    Keyed.insertUnlessTaken (·.idempotencyKeyHash) addReportRow row db.reports =
        .ok (schema.view rows db).reports ∧
      schema.view rows db = { db with reports := (schema.view rows db).reports } := by
  simp only [exec] at h
  split at h
  · rename_i taken
    obtain ⟨_, rfl⟩ := Prod.mk.inj (Except.ok.inj h)
    simp only [Keyed.insertUnlessTaken, taken, if_true]
    exact ⟨rfl, rfl⟩
  · rename_i free
    obtain ⟨content, rfl, unheld⟩ := insertRow_ok _ _ _ _ _ h
    have unused := unheld (.reportId row.id) (by simp [Row.entries])
    have token := unheld (.reportToken row.followUpTokenHash) (by simp [Row.entries])
    rw [held_reportId] at unused
    rw [held_reportToken] at token
    refine ⟨?_, rfl⟩
    rw [Keyed.insertUnlessTaken, if_neg free, addReportRow, if_neg (by simpa using content)]
    apply (bind_ok _ _ _).mpr
    exact ⟨_, insertUnique_new _ _ _ _ token, insertUnique_new _ _ _ _ unused⟩

theorem exec_insertAlert (row : AlertRow)
    (h : exec (.insertAlert row) db = .ok (answer, rows)) :
    row.admissible = true ∧
      Keyed.insertUnlessTaken (·.idempotencyKeyHash) (addAlertRow db) row db.alerts =
        .ok (schema.view rows db).alerts ∧
      schema.view rows db = { db with alerts := (schema.view rows db).alerts } := by
  simp only [exec] at h
  split at h
  · simp at h
  rename_i admissible
  refine ⟨by simpa using admissible, ?_⟩
  split at h
  · rename_i taken
    obtain ⟨_, rfl⟩ := Prod.mk.inj (Except.ok.inj h)
    simp only [Keyed.insertUnlessTaken, taken, if_true]
    exact ⟨rfl, rfl⟩
  · rename_i free
    obtain ⟨checked, rfl, unheld⟩ := insertRow_ok _ _ _ _ _ h
    have unused := unheld (.alertId row.id) (by simp [Row.entries])
    rw [held_alertId] at unused
    simp only [Bool.and_eq_true, decide_eq_true_eq, Bool.not_eq_true'] at checked
    refine ⟨?_, rfl⟩
    rw [Keyed.insertUnlessTaken, if_neg free, addAlertRow, if_neg (not_not.mpr checked.1),
      if_neg (ne_true_of_eq_false checked.2)]
    exact insertUnique_new _ _ _ _ unused

end Statements

section Programs

variable {α : Type} (db : Db) (rows : List Row) (ending : Ending (List Row) α)

theorem alone_statement (statement : Statement) (rest : statement.Answer → Transaction α)
    (h : alone db ((run statement).bind rest) rows = some ending) :
    ∃ answer more, exec statement (schema.view rows db) = .ok (answer, more) ∧
      alone db (rest answer) (rows ++ more) = some ending :=
  alone_run (S := schema) statement id rest db rows ending h

theorem alone_insertReport (submission : AnonymousReportSubmission)
    (rest : Option ReportId → Transaction α)
    (h : alone db ((insertReport submission).bind rest) rows = some ending) :
    ∃ existing more, SafeCameroon.insertReport submission (schema.view rows db) =
        .ok (existing, schema.view (rows ++ more) db) ∧
      alone db (rest existing) (rows ++ more) = some ending := by
  simp only [insertReport, Proc.bind_def, Proc.bind_assoc] at h
  obtain ⟨answer, more, inserted, later⟩ := alone_statement db rows ending _ _ h
  obtain ⟨added, same⟩ := exec_insertReport _ answer more _ inserted
  have whole : ∀ existing,
      Keyed.reread (·.idempotencyKeyHash) (·.id) (reportRow submission)
        (schema.view (rows ++ more) db).reports = existing →
      SafeCameroon.insertReport submission (schema.view rows db) =
        .ok (existing, schema.view (rows ++ more) db) := by
    intro existing reread
    rw [view_append] at reread ⊢
    apply (bind_ok _ _ _).mpr
    refine ⟨(existing, (schema.view more (schema.view rows db)).reports), ?_, ?_⟩
    · apply (bind_ok _ _ _).mpr
      exact ⟨_, added, by rw [reread]; rfl⟩
    · rw [same]
      rfl
  cases key : submission.idempotencyKeyHash with
  | none =>
      simp only [key] at later
      exact ⟨none, more, whole none (by simp [Keyed.reread, reportRow, key]), later⟩
  | some hash =>
      simp only [key, Proc.bind_assoc] at later
      obtain ⟨existing, nothing, found, last⟩ := alone_statement db _ ending _ _ later
      obtain ⟨rfl, rfl⟩ := Prod.mk.inj (Except.ok.inj found)
      rw [List.append_nil] at last
      split at last
      · rename_i other
        exact ⟨_, more, whole _ (by simp only [Keyed.reread, reportRow, key]; rw [if_pos other]), last⟩
      · rename_i own
        exact ⟨_, more, whole _ (by simp only [Keyed.reread, reportRow, key]; rw [if_neg own]), last⟩

theorem alone_insertAlert (creation : AlertCreation) (rest : Option AlertId → Transaction α)
    (h : alone db ((insertAlert creation).bind rest) rows = some ending) :
    ∃ existing more, SafeCameroon.insertAlert creation (schema.view rows db) =
        .ok (existing, schema.view (rows ++ more) db) ∧
      alone db (rest existing) (rows ++ more) = some ending := by
  simp only [insertAlert, Proc.bind_def, Proc.bind_assoc] at h
  obtain ⟨answer, more, inserted, later⟩ := alone_statement db rows ending _ _ h
  obtain ⟨admissible, added, same⟩ := exec_insertAlert _ answer more _ inserted
  have whole : ∀ existing,
      Keyed.reread (·.idempotencyKeyHash) (·.id) (alertRow creation)
        (schema.view (rows ++ more) db).alerts = existing →
      SafeCameroon.insertAlert creation (schema.view rows db) =
        .ok (existing, schema.view (rows ++ more) db) := by
    intro existing reread
    rw [view_append] at reread ⊢
    rw [SafeCameroon.insertAlert, if_pos admissible]
    apply (bind_ok _ _ _).mpr
    refine ⟨(existing, (schema.view more (schema.view rows db)).alerts), ?_, ?_⟩
    · apply (bind_ok _ _ _).mpr
      exact ⟨_, added, by rw [reread]; rfl⟩
    · rw [same]
      rfl
  cases key : creation.idempotencyKeyHash with
  | none =>
      simp only [key] at later
      exact ⟨none, more, whole none (by simp [Keyed.reread, alertRow, key]), later⟩
  | some hash =>
      simp only [key, Proc.bind_assoc] at later
      obtain ⟨existing, nothing, found, last⟩ := alone_statement db _ ending _ _ later
      obtain ⟨rfl, rfl⟩ := Prod.mk.inj (Except.ok.inj found)
      rw [List.append_nil] at last
      split at last
      · rename_i other
        exact ⟨_, more, whole _ (by simp only [Keyed.reread, alertRow, key]; rw [if_pos other]), last⟩
      · rename_i own
        exact ⟨_, more, whole _ (by simp only [Keyed.reread, alertRow, key]; rw [if_neg own]), last⟩

theorem alone_insertAlertFields (alertId : AlertId) (fields : List AlertFieldValue)
    (rest : Unit → Transaction α)
    (h : alone db ((insertAlertFields alertId fields).bind rest) rows = some ending) :
    ∃ more, SafeCameroon.insertAlertFields alertId fields (schema.view rows db) =
        .ok (schema.view (rows ++ more) db) ∧
      alone db (rest ()) (rows ++ more) = some ending := by
  induction fields generalizing rows with
  | nil =>
      refine ⟨[], ?_, ?_⟩
      · rw [List.append_nil]
        rfl
      · rw [List.append_nil]
        exact h
  | cons field fields ih =>
      simp only [insertAlertFields, Proc.forEach, Proc.bind_assoc] at h
      obtain ⟨answer, written, inserted, later⟩ := alone_statement db rows ending _ _ h
      obtain ⟨more, others, last⟩ := ih (rows ++ written) later
      refine ⟨written ++ more, ?_, by rw [← List.append_assoc]; exact last⟩
      obtain ⟨checked, rfl, free⟩ := insertRow_ok _ _ _ _ _ inserted
      have unused := free (.alertField alertId field.field) (by simp [Row.entries])
      rw [held_alertField] at unused
      rw [SafeCameroon.insertAlertFields, if_neg (by simpa using checked)]
      apply (bind_ok _ _ _).mpr
      refine ⟨_, insertUnique_new _ _ _ _ unused, ?_⟩
      rw [← List.append_assoc, ← others, view_append]
      rfl

end Programs

theorem alone_submitAnonymous (now : Timestamp) (submission : AnonymousReportSubmission) (db : Db)
    (ending : Ending (List Row) SubmissionResult)
    (h : alone db (submitAnonymous now submission) [] = some ending) :
    PostgresReportRepository.submitAnonymous now submission db =
      .ok (ending.map (fun rows => schema.view rows db) id) := by
  obtain ⟨existing, reported, inserted, later⟩ := alone_insertReport db [] ending submission _ h
  apply (bind_ok _ _ _).mpr
  refine ⟨_, inserted, ?_⟩
  cases existing with
  | some reportId =>
      obtain rfl : Ending.rollback (.duplicate reportId) = ending := Option.some.inj later
      rfl
  | none =>
      obtain ⟨_, audited, audit, later⟩ := alone_statement db _ ending _ _ later
      obtain ⟨_, sent, outbox, later⟩ := alone_statement db _ ending _ _ later
      obtain rfl : Ending.commit .created ([] ++ reported ++ audited ++ sent) = ending :=
        Option.some.inj later
      have audit := exec_insertReportAuditEvent _ _ _ _ audit
      have outbox := exec_insertOutboxEvent _ _ _ _ _ _ _ _ _ outbox
      rw [← view_append] at audit outbox
      apply (bind_ok _ _ _).mpr
      refine ⟨_, audit, ?_⟩
      apply (bind_ok _ _ _).mpr
      exact ⟨_, outbox, rfl⟩

theorem alone_create (now : Timestamp) (creation : AlertCreation) (db : Db)
    (ending : Ending (List Row) AlertCreationOutcome)
    (h : alone db (create now creation) [] = some ending) :
    PostgresAlertRepository.create now creation db =
      .ok (ending.map (fun rows => schema.view rows db) id) := by
  obtain ⟨existing, issued, inserted, later⟩ := alone_insertAlert db [] ending creation _ h
  apply (bind_ok _ _ _).mpr
  refine ⟨_, inserted, ?_⟩
  cases existing with
  | some alertId =>
      obtain rfl : Ending.rollback (.duplicate alertId) = ending := Option.some.inj later
      rfl
  | none =>
      obtain ⟨described, fields, later⟩ := alone_insertAlertFields db _ ending _ _ _ later
      obtain ⟨_, noted, event, later⟩ := alone_statement db _ ending _ _ later
      obtain ⟨_, audited, audit, later⟩ := alone_statement db _ ending _ _ later
      obtain ⟨_, sent, outbox, later⟩ := alone_statement db _ ending _ _ later
      obtain rfl : Ending.commit .created ([] ++ issued ++ described ++ noted ++ audited ++ sent) =
        ending := Option.some.inj later
      have event := exec_insertAlertEvent _ _ _ _ _ event
      have audit := exec_insertAuditEvent _ _ _ _ _ _ _ _ _ audit
      have outbox := exec_insertOutboxEvent _ _ _ _ _ _ _ _ _ outbox
      rw [← view_append] at event audit outbox
      apply (bind_ok _ _ _).mpr
      refine ⟨_, fields, ?_⟩
      apply (bind_ok _ _ _).mpr
      refine ⟨_, event, ?_⟩
      apply (bind_ok _ _ _).mpr
      refine ⟨_, audit, ?_⟩
      apply (bind_ok _ _ _).mpr
      exact ⟨_, outbox, rfl⟩

end SafeCameroon.Submission
