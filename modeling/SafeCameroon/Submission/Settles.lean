import SafeCameroon.Submission.Atomic

namespace SafeCameroon.Submission

open Table Process ReadCommitted

section Settles

variable {α : Type}

theorem settles_statement (statement : Statement) (rest : statement.Answer → Transaction α) (db : Db)
    (rows : List Row)
    (answers : ∀ others answer more,
      exec statement (schema.view rows (schema.view others db)) = .ok (answer, more) →
        settled statement answer ∧
          Settles settled (rest answer) (schema.view others db) (rows ++ more)) :
    Settles settled ((run statement).bind rest) db rows :=
  settles_run (S := schema) statement id rest db rows answers

theorem insertReport_held (row : ReportRow) (hash : List UInt8)
    (key : row.idempotencyKeyHash = some hash) (db : Db) (answer : Unit) (more : List Row)
    (h : exec (.insertReport row) db = .ok (answer, more)) :
    held (.reportKey hash) (schema.view more db) := by
  simp only [exec] at h
  split at h
  · rename_i taken
    obtain ⟨value, same, already⟩ := (taken_reportKey row db).mp taken
    obtain rfl : value = hash := Option.some.inj (same.symm.trans key)
    exact (held_view _ more db).mpr (Or.inl already)
  · obtain ⟨_, rfl, _⟩ := insertRow_ok _ _ _ _ _ h
    exact (held_view _ _ db).mpr (Or.inr (by simp [Schema.entriesOf, Row.entries, key]))

theorem insertAlert_held (row : AlertRow) (hash : List UInt8)
    (key : row.idempotencyKeyHash = some hash) (db : Db) (answer : Unit) (more : List Row)
    (h : exec (.insertAlert row) db = .ok (answer, more)) :
    held (.alertKey hash) (schema.view more db) := by
  simp only [exec] at h
  split at h
  · simp at h
  split at h
  · rename_i taken
    obtain ⟨value, same, already⟩ := (taken_alertKey row db).mp taken
    obtain rfl : value = hash := Option.some.inj (same.symm.trans key)
    exact (held_view _ more db).mpr (Or.inl already)
  · obtain ⟨_, rfl, _⟩ := insertRow_ok _ _ _ _ _ h
    exact (held_view _ _ db).mpr (Or.inr (by simp [Schema.entriesOf, Row.entries, key]))

theorem held_between (entry : Entry) (own others : List Row) (db : Db)
    (before : held entry (schema.view own db)) :
    held entry (schema.view own (schema.view others db)) := by
  refine (held_view entry own _).mpr ?_
  rcases (held_view entry own db).mp before with already | mine
  · exact Or.inl ((held_view entry others db).mpr (Or.inl already))
  · exact Or.inr mine

theorem settles_insertReport (submission : AnonymousReportSubmission)
    (rest : Option ReportId → Transaction α) (db : Db) (rows : List Row)
    (later : ∀ existing others more,
      Settles settled (rest existing) (schema.view others db) (rows ++ more)) :
    Settles settled ((insertReport submission).bind rest) db rows := by
  simp only [insertReport, Proc.bind_def, Proc.bind_assoc]
  refine settles_statement _ _ db rows fun others answer more inserted => ⟨trivial, ?_⟩
  cases key : submission.idempotencyKeyHash with
  | none => exact later none others more
  | some hash =>
      simp only [Proc.bind_assoc]
      refine settles_statement _ _ _ _ fun between existing nothing found => ?_
      obtain ⟨rfl, rfl⟩ := Prod.mk.inj (Except.ok.inj found)
      have taken := insertReport_held (reportRow submission) hash key _ answer more inserted
      rw [← view_append] at taken
      have stored := (held_reportKey hash _).mp (held_between _ (rows ++ more) between _ taken)
      constructor
      · intro missed
        obtain ⟨row, member, same⟩ := stored
        exact (Keyed.idByKey_none _ _ _ _).mp missed row member same
      · have last := fun existing => later existing (others ++ between) more
        rw [view_append] at last
        rw [List.append_nil]
        split
        · exact last _
        · exact last none

theorem settles_insertAlert (creation : AlertCreation) (rest : Option AlertId → Transaction α)
    (db : Db) (rows : List Row)
    (later : ∀ existing others more,
      Settles settled (rest existing) (schema.view others db) (rows ++ more)) :
    Settles settled ((insertAlert creation).bind rest) db rows := by
  simp only [insertAlert, Proc.bind_def, Proc.bind_assoc]
  refine settles_statement _ _ db rows fun others answer more inserted => ⟨trivial, ?_⟩
  cases key : creation.idempotencyKeyHash with
  | none => exact later none others more
  | some hash =>
      simp only [Proc.bind_assoc]
      refine settles_statement _ _ _ _ fun between existing nothing found => ?_
      obtain ⟨rfl, rfl⟩ := Prod.mk.inj (Except.ok.inj found)
      have taken := insertAlert_held (alertRow creation) hash key _ answer more inserted
      rw [← view_append] at taken
      have stored := (held_alertKey hash _).mp (held_between _ (rows ++ more) between _ taken)
      constructor
      · intro missed
        obtain ⟨row, member, same⟩ := stored
        exact (Keyed.idByKey_none _ _ _ _).mp missed row member same
      · have last := fun existing => later existing (others ++ between) more
        rw [view_append] at last
        rw [List.append_nil]
        split
        · exact last _
        · exact last none

theorem settles_insertAlertFields (alertId : AlertId) (fields : List AlertFieldValue)
    (rest : Unit → Transaction α) (db : Db) (rows : List Row)
    (later : ∀ others more, Settles settled (rest ()) (schema.view others db) (rows ++ more)) :
    Settles settled ((insertAlertFields alertId fields).bind rest) db rows := by
  induction fields generalizing db rows with
  | nil =>
      have last := later [] []
      rw [List.append_nil] at last
      exact last
  | cons field fields ih =>
      simp only [insertAlertFields, Proc.forEach, Proc.bind_assoc]
      refine settles_statement _ _ db rows fun others answer more inserted => ⟨trivial, ?_⟩
      apply ih
      intro between others
      rw [← view_append, List.append_assoc]
      exact later _ _

end Settles

theorem settles_submitAnonymous (now : Timestamp) (submission : AnonymousReportSubmission) (db : Db) :
    Settles settled (submitAnonymous now submission) db [] := by
  refine ⟨fun error => ⟨_, rfl⟩, fun others => ?_⟩
  apply settles_insertReport
  intro existing others more
  cases existing with
  | some reportId => exact ⟨fun error => ⟨_, rfl⟩, _, rfl⟩
  | none =>
      refine settles_statement _ _ _ _ fun _ _ _ _ => ⟨trivial, ?_⟩
      refine settles_statement _ _ _ _ fun _ _ _ _ => ⟨trivial, ?_⟩
      exact ⟨fun error => ⟨_, rfl⟩, _, rfl⟩

theorem settles_create (now : Timestamp) (creation : AlertCreation) (db : Db) :
    Settles settled (create now creation) db [] := by
  refine ⟨fun error => ⟨_, rfl⟩, fun others => ?_⟩
  apply settles_insertAlert
  intro existing others more
  cases existing with
  | some alertId => exact ⟨fun error => ⟨_, rfl⟩, _, rfl⟩
  | none =>
      apply settles_insertAlertFields
      intro others more
      refine settles_statement _ _ _ _ fun _ _ _ _ => ⟨trivial, ?_⟩
      refine settles_statement _ _ _ _ fun _ _ _ _ => ⟨trivial, ?_⟩
      refine settles_statement _ _ _ _ fun _ _ _ _ => ⟨trivial, ?_⟩
      exact ⟨fun error => ⟨_, rfl⟩, _, rfl⟩

end SafeCameroon.Submission
