import SafeCameroon.Submission.Statements

namespace SafeCameroon.Submission

open Table Process ReadCommitted

def held (entry : Entry) (db : Db) : Prop := entry ∈ index db

theorem held_apply (entry : Entry) (db : Db) (row : Row) :
    held entry (row.apply db) ↔ held entry db ∨ entry ∈ row.entries := by
  cases row <;>
    simp only [held, index, Row.apply, List.flatMap_append, List.flatMap_cons, List.flatMap_nil,
      List.append_nil, List.mem_append] <;>
    grind

/-- What the rows leave as it is. -/
structure Reads (db after : Db) : Prop where
  cases : after.cases = db.cases
  organizations : after.organizations = db.organizations
  memberships : after.memberships = db.memberships

theorem view_reads (rows : List Row) (db : Db) : Reads db (schema.view rows db) := by
  induction rows generalizing db with
  | nil => exact ⟨rfl, rfl, rfl⟩
  | cons row rows ih =>
      have later := ih (row.apply db)
      have first : Reads db (row.apply db) := by cases row <;> exact ⟨rfl, rfl, rfl⟩
      exact ⟨later.cases.trans first.cases, later.organizations.trans first.organizations,
        later.memberships.trans first.memberships⟩

def Row.reports : Row → List ReportRow
  | .report row => [row]
  | _ => []

def Row.alerts : Row → List AlertRow
  | .alert row => [row]
  | _ => []

theorem view_reports (rows : List Row) (db : Db) :
    (schema.view rows db).reports = db.reports ++ rows.flatMap Row.reports := by
  induction rows generalizing db with
  | nil => exact (List.append_nil _).symm
  | cons row rows ih =>
      have first : (row.apply db).reports = db.reports ++ row.reports := by
        cases row <;> simp [Row.apply, Row.reports]
      calc
        (schema.view (row :: rows) db).reports = (schema.view rows (row.apply db)).reports := rfl
        _ = (db.reports ++ row.reports) ++ rows.flatMap Row.reports := by rw [ih, first]
        _ = db.reports ++ (row :: rows).flatMap Row.reports := by
          rw [List.flatMap_cons, List.append_assoc]

theorem view_alerts (rows : List Row) (db : Db) :
    (schema.view rows db).alerts = db.alerts ++ rows.flatMap Row.alerts := by
  induction rows generalizing db with
  | nil => exact (List.append_nil _).symm
  | cons row rows ih =>
      have first : (row.apply db).alerts = db.alerts ++ row.alerts := by
        cases row <;> simp [Row.apply, Row.alerts]
      calc
        (schema.view (row :: rows) db).alerts = (schema.view rows (row.apply db)).alerts := rfl
        _ = (db.alerts ++ row.alerts) ++ rows.flatMap Row.alerts := by rw [ih, first]
        _ = db.alerts ++ (row :: rows).flatMap Row.alerts := by
          rw [List.flatMap_cons, List.append_assoc]

theorem insertRow_ok (checked : Bool) (row : Row) (db : Db) (answer : Unit) (rows : List Row)
    (h : insertRow checked row db = .ok (answer, rows)) :
    checked = true ∧ rows = [row] ∧ ∀ entry ∈ row.entries, ¬held entry db := by
  simp only [insertRow] at h
  split at h
  · rename_i free
    simp only [Bool.and_eq_true, List.all_eq_true, decide_eq_true_eq] at free
    simp only [Except.ok.injEq, Prod.mk.injEq] at h
    exact ⟨free.1, h.2.symm, free.2⟩
  · cases h

theorem insertRow_new (checked : Bool) (row : Row) (db : Db) (holds : checked = true)
    (free : ∀ entry ∈ row.entries, ¬held entry db) :
    insertRow checked row db = .ok ((), [row]) := by
  simp only [insertRow, holds, Bool.true_and]
  rw [if_pos]
  simpa [held] using free

theorem held_reportKey (hash : List UInt8) (db : Db) :
    held (.reportKey hash) db ↔ ∃ row ∈ db.reports, row.idempotencyKeyHash = some hash := by
  simp [held, index, Row.entries]

theorem taken_reportKey (row : ReportRow) (db : Db) :
    Keyed.taken (·.idempotencyKeyHash) row db.reports = true ↔
      ∃ hash, row.idempotencyKeyHash = some hash ∧ held (.reportKey hash) db := by
  simp only [held_reportKey, Keyed.taken_iff]

theorem held_alertKey (hash : List UInt8) (db : Db) :
    held (.alertKey hash) db ↔ ∃ row ∈ db.alerts, row.idempotencyKeyHash = some hash := by
  simp [held, index, Row.entries]

theorem taken_alertKey (row : AlertRow) (db : Db) :
    Keyed.taken (·.idempotencyKeyHash) row db.alerts = true ↔
      ∃ hash, row.idempotencyKeyHash = some hash ∧ held (.alertKey hash) db := by
  simp only [held_alertKey, Keyed.taken_iff]

theorem held_view (entry : Entry) (rows : List Row) (db : Db) :
    held entry (schema.view rows db) ↔ held entry db ∨ entry ∈ schema.entriesOf rows :=
  ReadCommitted.held_view (S := schema) held held_apply entry rows db

/-- A row that went in goes in whatever others commit, as long as they leave its entries alone. -/
theorem insertRow_stable (checked : Bool) (row : Row) (own others : List Row) (db : Db)
    (answer : Unit) (rows : List Row)
    (h : insertRow checked row (schema.view own db) = .ok (answer, rows))
    (apart : ∀ entry ∈ schema.entriesOf (own ++ rows), ¬held entry (schema.view others db)) :
    insertRow checked row (schema.view own (schema.view others db)) = .ok (answer, rows) := by
  obtain ⟨holds, rfl, free⟩ := insertRow_ok _ _ _ _ _ h
  refine insertRow_new _ _ _ holds fun entry member now => ?_
  rcases (held_view entry own _).mp now with before | mine
  · exact apart entry (by simp [Schema.entriesOf, member]) before
  · exact free entry member ((held_view entry own db).mpr (Or.inr mine))

/-- A key that was taken stays taken, and one that was free is no one else's. -/
theorem taken_stable {taken : Db → Bool} (key : List UInt8 → Entry) (hash : Option (List UInt8))
    (iff : ∀ db, taken db = true ↔ ∃ value, hash = some value ∧ held (key value) db)
    (own others : List Row) (db : Db)
    (apart : taken (schema.view own db) = false → ∀ value, hash = some value →
      ¬held (key value) (schema.view others db)) :
    taken (schema.view own (schema.view others db)) = taken (schema.view own db) := by
  rw [Bool.eq_iff_iff, iff, iff]
  constructor
  · intro ⟨value, same, now⟩
    rcases (held_view _ own _).mp now with before | mine
    · cases already : taken (schema.view own db) with
      | true => exact (iff _).mp already
      | false => exact absurd before (apart already value same)
    · exact ⟨value, same, (held_view _ own db).mpr (Or.inr mine)⟩
  · intro ⟨value, same, before⟩
    refine ⟨value, same, (held_view _ own _).mpr ?_⟩
    rcases (held_view _ own db).mp before with already | mine
    · exact Or.inl ((held_view _ others db).mpr (Or.inl already))
    · exact Or.inr mine

theorem mem_entriesOf_report (rows : List Row) (row : ReportRow) (hash : List UInt8)
    (member : row ∈ rows.flatMap Row.reports) (same : row.idempotencyKeyHash = some hash) :
    .reportKey hash ∈ schema.entriesOf rows := by
  obtain ⟨written, inRows, own⟩ := List.mem_flatMap.mp member
  refine List.mem_flatMap.mpr ⟨written, inRows, ?_⟩
  cases written <;> simp_all [Row.reports, Row.entries]

theorem mem_entriesOf_alert (rows : List Row) (row : AlertRow) (hash : List UInt8)
    (member : row ∈ rows.flatMap Row.alerts) (same : row.idempotencyKeyHash = some hash) :
    .alertKey hash ∈ schema.entriesOf rows := by
  obtain ⟨written, inRows, own⟩ := List.mem_flatMap.mp member
  refine List.mem_flatMap.mpr ⟨written, inRows, ?_⟩
  cases written <;> simp_all [Row.alerts, Row.entries]

theorem findReportByKey_stable (hash : List UInt8) (own others : List Row) (db : Db)
    (found : Keyed.idByKey (·.idempotencyKeyHash) (·.id) hash (schema.view own db).reports ≠ none)
    (apart : ∀ entry ∈ schema.entriesOf own, ¬held entry (schema.view others db)) :
    Keyed.idByKey (·.idempotencyKeyHash) (·.id) hash
        (schema.view own (schema.view others db)).reports =
      Keyed.idByKey (·.idempotencyKeyHash) (·.id) hash (schema.view own db).reports := by
  rw [view_reports, view_reports, view_reports]
  rw [view_reports] at found
  refine Keyed.idByKey_between _ _ hash _ _ _ found fun mine row member same => ?_
  obtain ⟨id, stored⟩ := Option.ne_none_iff_exists'.mp mine
  obtain ⟨other, inOwn, equal, _⟩ := Keyed.idByKey_some _ _ _ _ _ stored
  refine apart _ (mem_entriesOf_report own other hash inOwn equal) ?_
  rw [held_reportKey, view_reports]
  exact ⟨row, List.mem_append_right _ member, same⟩

theorem findAlertByKey_stable (hash : List UInt8) (own others : List Row) (db : Db)
    (found : Keyed.idByKey (·.idempotencyKeyHash) (·.id) hash (schema.view own db).alerts ≠ none)
    (apart : ∀ entry ∈ schema.entriesOf own, ¬held entry (schema.view others db)) :
    Keyed.idByKey (·.idempotencyKeyHash) (·.id) hash
        (schema.view own (schema.view others db)).alerts =
      Keyed.idByKey (·.idempotencyKeyHash) (·.id) hash (schema.view own db).alerts := by
  rw [view_alerts, view_alerts, view_alerts]
  rw [view_alerts] at found
  refine Keyed.idByKey_between _ _ hash _ _ _ found fun mine row member same => ?_
  obtain ⟨id, stored⟩ := Option.ne_none_iff_exists'.mp mine
  obtain ⟨other, inOwn, equal, _⟩ := Keyed.idByKey_some _ _ _ _ _ stored
  refine apart _ (mem_entriesOf_alert own other hash inOwn equal) ?_
  rw [held_alertKey, view_alerts]
  exact ⟨row, List.mem_append_right _ member, same⟩

theorem exec_unheld (statement : Statement) (db : Db) (answer : statement.Answer) (rows : List Row)
    (h : exec statement db = .ok (answer, rows)) (entry : Entry)
    (member : entry ∈ schema.entriesOf rows) : ¬held entry db := by
  have fresh : ∀ checked row answer, insertRow checked row db = .ok (answer, rows) →
      ¬held entry db := by
    intro checked row answer inserted
    obtain ⟨_, rfl, free⟩ := insertRow_ok _ _ _ _ _ inserted
    exact free entry (by simpa [Schema.entriesOf] using member)
  have nothing : rows = [] → ¬held entry db := by
    intro same
    subst same
    cases member
  cases statement with
  | insertReport row =>
      simp only [exec] at h
      split at h
      · exact nothing (Prod.mk.inj (Except.ok.inj h)).2.symm
      · exact fresh _ _ _ h
  | insertAlert row =>
      simp only [exec] at h
      split at h
      · simp at h
      split at h
      · exact nothing (Prod.mk.inj (Except.ok.inj h)).2.symm
      · exact fresh _ _ _ h
  | findReportByKey hash => exact nothing (Prod.mk.inj (Except.ok.inj h)).2.symm
  | findAlertByKey hash => exact nothing (Prod.mk.inj (Except.ok.inj h)).2.symm
  | insertReportAuditEvent submission => exact fresh _ _ _ h
  | insertAlertField row => exact fresh _ _ _ h
  | insertAlertEvent event actor => exact fresh _ _ _ h
  | insertAuditEvent => exact fresh _ _ _ h
  | insertOutboxEvent => exact fresh _ _ _ h

theorem exec_stable (statement : Statement) (own others : List Row) (db : Db)
    (answer : statement.Answer) (rows : List Row)
    (h : exec statement (schema.view own db) = .ok (answer, rows)) (stays : settled statement answer)
    (apart : ∀ entry ∈ schema.entriesOf (own ++ rows), ¬held entry (schema.view others db)) :
    exec statement (schema.view own (schema.view others db)) = .ok (answer, rows) := by
  have first := view_reads own db
  have second := view_reads own (schema.view others db)
  have between := view_reads others db
  have mine : ∀ entry ∈ schema.entriesOf own, ¬held entry (schema.view others db) :=
    fun entry member => apart entry (by
      rw [entriesOf_append]
      exact List.mem_append_left _ member)
  cases statement with
  | insertReport row =>
      have same := taken_stable .reportKey row.idempotencyKeyHash (taken_reportKey row) own others db
      simp only [exec] at h ⊢
      split at h
      · rename_i taken
        rw [same fun free => by simp [taken] at free, if_pos taken]
        exact h
      · rename_i free
        obtain ⟨_, rfl, _⟩ := insertRow_ok _ _ _ _ _ h
        rw [same, if_neg free]
        · exact insertRow_stable _ _ own others db _ _ h apart
        · intro _ hash key
          exact apart _ (by simp [Schema.entriesOf, Row.entries, key])
  | insertAlert row =>
      have same := taken_stable .alertKey row.idempotencyKeyHash (taken_alertKey row) own others db
      simp only [exec] at h ⊢
      rw [second.cases, between.cases, second.organizations, between.organizations]
      rw [first.cases, first.organizations] at h
      split at h
      · simp at h
      rename_i admissible
      rw [if_neg admissible]
      split at h
      · rename_i taken
        rw [same fun free => by simp [taken] at free, if_pos taken]
        exact h
      · rename_i free
        obtain ⟨_, rfl, _⟩ := insertRow_ok _ _ _ _ _ h
        rw [same, if_neg free]
        · exact insertRow_stable _ _ own others db _ _ h apart
        · intro _ hash key
          exact apart _ (by simp [Schema.entriesOf, Row.entries, key])
  | findReportByKey hash =>
      simp only [exec, Except.ok.injEq, Prod.mk.injEq] at h ⊢
      obtain ⟨rfl, rfl⟩ := h
      exact ⟨findReportByKey_stable hash own others db stays mine, rfl⟩
  | findAlertByKey hash =>
      simp only [exec, Except.ok.injEq, Prod.mk.injEq] at h ⊢
      obtain ⟨rfl, rfl⟩ := h
      exact ⟨findAlertByKey_stable hash own others db stays mine, rfl⟩
  | insertReportAuditEvent submission => exact insertRow_stable _ _ own others db _ _ h apart
  | insertAlertField row => exact insertRow_stable _ _ own others db _ _ h apart
  | insertAlertEvent event actor => exact insertRow_stable _ _ own others db _ _ h apart
  | insertAuditEvent resourceType auditEventId actor action resourceId requestId =>
      have row : auditRow resourceType auditEventId actor action resourceId requestId
          (schema.view own (schema.view others db)) =
            auditRow resourceType auditEventId actor action resourceId requestId
              (schema.view own db) := by
        simp only [auditRow, organizationIdForActor, second.memberships, between.memberships,
          first.memberships]
      simp only [exec] at h ⊢
      rw [row]
      exact insertRow_stable _ _ own others db _ _ h apart
  | insertOutboxEvent => exact insertRow_stable _ _ own others db _ _ h apart

theorem lawful : Lawful schema held settled where
  held_apply := held_apply
  unheld := exec_unheld
  stable := exec_stable

end SafeCameroon.Submission
