import SafeCameroon.Attachments.Requests
import SafeCameroon.Incidents.Effects

namespace SafeCameroon.Attachments

open Table Process

section Tables

/-- No audit row and no report is gone. -/
structure Keeps (db after : Db) : Prop where
  audits : db.auditEvents ⊆ after.auditEvents
  reports : db.reports.map (·.id) ⊆ after.reports.map (·.id)

theorem Keeps.refl (db : Db) : Keeps db db := ⟨List.Subset.refl _, List.Subset.refl _⟩

theorem Keeps.appended {db after : Db} (rows : List AuditRow) (reports : after.reports = db.reports)
    (audits : after.auditEvents = db.auditEvents ++ rows) : Keeps db after where
  audits := by
    rw [audits]
    exact List.subset_append_left _ _
  reports := by
    rw [reports]
    exact List.Subset.refl _

theorem markedReports_ids (id : ReportId) (reports : List ReportRow) :
    (markedReports id reports).map (·.id) = reports.map (·.id) :=
  map_key_updateWhere _ _ _ _ fun _ => rfl

theorem createCase_audits (now : Timestamp) (creation : CaseCreation) (db after : Db)
    (outcome : CaseCreationOutcome)
    (created : PostgresCaseRepository.create now creation db = .ok (.commit outcome after)) :
    db.auditEvents ⊆ after.auditEvents := by
  simp only [PostgresCaseRepository.create, bind_ok] at created
  obtain ⟨reportId, _, second, added, linked, link, rest⟩ := created
  simp only [insertCase, bind_ok, pure, Except.pure, Except.ok.injEq] at added
  obtain ⟨cases, _, rfl⟩ := added
  cases linked with
  | none => simp [pure, Except.pure] at rest
  | some third =>
      obtain ⟨rfl, _⟩ := insertCaseReportLink_ok _ _ _ _ _ link
      simp only [bind_ok, pure, Except.pure, Except.ok.injEq, Ending.commit.injEq] at rest
      obtain ⟨fourth, event, fifth, audit, sixth, outbox, _, rfl⟩ := rest
      obtain rfl := insertCaseEvent_ok _ _ _ _ event
      obtain ⟨rfl, _⟩ := insertAuditEvent_ok _ _ _ _ _ _ _ _ audit
      obtain ⟨rfl, _⟩ := insertOutboxEvent_ok _ _ _ _ _ _ _ _ outbox
      exact List.subset_append_left _ _

theorem edit_keeps (env : Incidents.Env) (edit : Incidents.Edit) (db after : Db)
    (ran : Incidents.runEdit env edit db = .ok (.commit () after)) : Keeps db after := by
  have reports : after.reports = db.reports := by
    rw [Incidents.runEdit_same env edit db after ran]
  suffices audits : ∃ rows, after.auditEvents = db.auditEvents ++ rows by
    obtain ⟨rows, appended⟩ := audits
    exact .appended rows reports appended
  cases edit with
  | createOrganization id =>
      simp only [Incidents.runEdit, PostgresOrganizationRepository.create, bind_ok, pure, Except.pure,
        Except.ok.injEq, Ending.commit.injEq, true_and] at ran
      obtain ⟨_, _, rfl⟩ := ran
      exact ⟨[], (List.append_nil _).symm⟩
  | setActive id isActive =>
      simp only [Incidents.runEdit, PostgresOrganizationRepository.setActive, Except.ok.injEq,
        Ending.commit.injEq, true_and] at ran
      subst ran
      exact ⟨[], (List.append_nil _).symm⟩
  | setConsumerId id consumerId =>
      simp only [Incidents.runEdit, PostgresOrganizationRepository.setConsumerId] at ran
      split_ifs at ran
      simp only [Except.ok.injEq, Ending.commit.injEq, true_and] at ran
      subst ran
      exact ⟨[], (List.append_nil _).symm⟩
  | setTrustGrants id types visibilities =>
      simp only [Incidents.runEdit, PostgresOrganizationRepository.setTrustGrants, Except.ok.injEq,
        Ending.commit.injEq, true_and] at ran
      subst ran
      exact ⟨[], (List.append_nil _).symm⟩
  | addMembership reviewerId role organizationId =>
      simp only [Incidents.runEdit, PostgresOrganizationRepository.addMembership] at ran
      split_ifs at ran
      simp only [bind_ok, pure, Except.pure, Except.ok.injEq, Ending.commit.injEq, true_and] at ran
      obtain ⟨_, _, rfl⟩ := ran
      exact ⟨[], (List.append_nil _).symm⟩
  | createConsumer row =>
      simp only [Incidents.runEdit, PostgresConsumerRepository.create, bind_ok, pure, Except.pure,
        Except.ok.injEq, Ending.commit.injEq, true_and] at ran
      obtain ⟨_, _, rfl⟩ := ran
      exact ⟨[], (List.append_nil _).symm⟩
  | createSubscription subscription =>
      simp only [Incidents.runEdit, PostgresSubscriptionRepository.create, bind_ok, pure, Except.pure,
        Except.ok.injEq, Ending.commit.injEq, true_and] at ran
      obtain ⟨_, _, rfl⟩ := ran
      exact ⟨[], (List.append_nil _).symm⟩
  | updateSubscription auditEventId subscription actor requestId =>
      simp only [Incidents.runEdit, bind_ok] at ran
      obtain ⟨ending, updated, rest⟩ := ran
      cases ending with
      | rollback outcome => simp [pure, Except.pure] at rest
      | commit outcome final =>
          simp only [pure, Except.pure, Except.ok.injEq, Ending.commit.injEq, true_and] at rest
          subst rest
          simp only [PostgresSubscriptionRepository.update] at updated
          split_ifs at updated
          · simp only [bind_ok, pure, Except.pure, Except.ok.injEq, Ending.commit.injEq] at updated
            obtain ⟨second, audit, _, rfl⟩ := updated
            obtain ⟨rfl, _⟩ := insertAuditEvent_ok _ _ _ _ _ _ _ _ audit
            exact ⟨_, rfl⟩
          · simp [pure, Except.pure] at updated
  | deleteSubscription id =>
      simp only [Incidents.runEdit, PostgresSubscriptionRepository.delete, Except.ok.injEq,
        Ending.commit.injEq, true_and] at ran
      subst ran
      exact ⟨[], (List.append_nil _).symm⟩

theorem incident_keeps (env : Incidents.Env) (call : Incidents.Call) (db : Db) :
    Keeps db (Incidents.runCall env call db).2 := by
  have wrote := Incidents.runCall_wrote env call db
  generalize ran : Incidents.runCall env call db = result at wrote ⊢
  obtain ⟨answer, after⟩ := result
  dsimp only at wrote ⊢
  cases wrote with
  | idle => exact .refl db
  | submitted effect =>
      rename_i submission
      refine ⟨effect.audit ▸ List.subset_append_left _ _, ?_⟩
      have inserted := effect.inserted
      generalize after.reports = reports at inserted ⊢
      cases inserted with
      | again => exact List.Subset.refl _
      | new =>
          rw [List.map_append]
          exact List.subset_append_left _ _
  | marked effect =>
      simp only [PostgresReportRepository.markUnderReview, Except.ok.injEq,
        Ending.commit.injEq] at effect
      obtain ⟨_, rfl⟩ := effect
      have ids : ∀ selected, (updateWhere selected
          (fun row : ReportRow => { row with status := .underReview }) db.reports).map (·.id) =
            db.reports.map (·.id) := fun _ => map_key_updateWhere _ _ _ _ fun _ => rfl
      refine ⟨List.Subset.refl _, ?_⟩
      dsimp only
      rw [ids]
      exact List.Subset.refl _
  | caseCreated effect =>
      rename_i creation reportId
      have answered : (transaction env.fault Failure.database
          (PostgresCaseRepository.create env.now creation) db) = (.ok .created, after) := ran
      refine ⟨?_, ?_⟩
      · rcases transaction_ok _ _ _ db _ (congrArg Prod.fst answered) with
          ⟨_, unchanged⟩ | ⟨final, result, ended⟩
        · rw [answered] at unchanged
          exact unchanged ▸ List.Subset.refl _
        · rw [answered] at ended
          obtain rfl : after = final := ended
          exact createCase_audits env.now creation db after _ result
      · rw [effect.reports, markedReports_ids]
        exact List.Subset.refl _
  | linked effect =>
      obtain ⟨audited, audits⟩ := effect.audit
      refine ⟨audits ▸ List.subset_append_left _ _, ?_⟩
      rw [effect.reports]
      dsimp only [Option.elim]
      rw [markedReports_ids]
      exact List.Subset.refl _
  | reviewed effect =>
      obtain ⟨audited, audits⟩ := effect.audit
      exact .appended _ effect.reports audits
  | alertCreated effect =>
      refine .appended _ ?_ effect.audit
      rw [effect.elsewhere]
  | alertCancelled effect =>
      refine .appended _ ?_ effect.audit
      rw [effect.elsewhere]
  | @edited edit _ ran =>
      have answered : (transaction env.fault Failure.database (Incidents.runEdit env edit) db) =
        (.ok (), after) := ran
      rcases transaction_ok _ _ _ db _ (congrArg Prod.fst answered) with
        ⟨_, unchanged⟩ | ⟨final, result, ended⟩
      · rw [answered] at unchanged
        exact unchanged ▸ .refl db
      · rw [answered] at ended
        obtain rfl : after = final := ended
        exact edit_keeps env edit db after result

end Tables

/-- A table of attachments as the constraints of the database leave it. -/
structure Wellformed (store : AttachmentStore) : Prop where
  constrained : ∀ row ∈ store.attachments, row.constrained = true
  distinct : (store.attachments.map (·.id)).Nodup
  placed : (store.attachments.map (·.objectKey)).Nodup
  reported : ∀ row ∈ store.attachments, row.reportId ∈ store.db.reports.map (·.id)

/-- What a new attachment adds to its table. -/
structure Stored (now : Timestamp) (attachment : Attachment) (store after : AttachmentStore) :
    Prop where
  rows : after = { store with attachments := store.attachments ++ [attachmentRow now attachment] }
  constrained : (attachmentRow now attachment).constrained = true
  reported : attachment.reportId ∈ store.db.reports.map (·.id)
  unplaced : attachment.objectKey ∉ store.attachments.map (·.objectKey)
  unused : attachment.id ∉ store.attachments.map (·.id)

theorem create_stored (now : Timestamp) (attachment : Attachment) (store after : AttachmentStore)
    (created : PostgresAttachmentRepository.create now attachment store = .ok (.commit () after)) :
    Stored now attachment store after := by
  simp only [PostgresAttachmentRepository.create] at created
  split_ifs at created with free unknown taken
  · rw [bind_ok] at created
    obtain ⟨attachments, inserted, ended⟩ := created
    obtain ⟨rfl, unused⟩ := insertUnique_ok _ _ _ _ _ inserted
    simp only [pure, Except.pure, Except.ok.injEq, Ending.commit.injEq, true_and] at ended
    exact ⟨ended.symm, by simpa using free, by simpa [attachmentRow] using unknown, taken, unused⟩

theorem Wellformed.stored {now : Timestamp} {attachment : Attachment} {store after : AttachmentStore}
    (wellformed : Wellformed store) (stored : Stored now attachment store after) :
    Wellformed after := by
  rw [stored.rows]
  constructor
  case constrained =>
    intro row member
    rcases List.mem_append.mp member with old | new
    · exact wellformed.constrained row old
    · rw [List.mem_singleton.mp new]
      exact stored.constrained
  case distinct =>
    rw [List.map_append]
    exact nodup_snoc _ _ wellformed.distinct stored.unused
  case placed =>
    rw [List.map_append]
    exact nodup_snoc _ _ wellformed.placed stored.unplaced
  case reported =>
    intro row member
    rcases List.mem_append.mp member with old | new
    · exact wellformed.reported row old
    · rw [List.mem_singleton.mp new]
      exact stored.reported

theorem Wellformed.tables {store : AttachmentStore} {db : Db} (wellformed : Wellformed store)
    (keeps : Keeps store.db db) : Wellformed { store with db } where
  constrained := wellformed.constrained
  distinct := wellformed.distinct
  placed := wellformed.placed
  reported := fun row member => keeps.reports (wellformed.reported row member)

def Call.accepts : (call : Call) → Except Failure call.Res → List Attachment
  | .create attachment, .ok _ => [attachment]
  | _, _ => []

inductive Wrote (env : Incidents.Env) (store : AttachmentStore) :
    (call : Call) → Except Failure call.Res → AttachmentStore → Prop where
  | reading {call : Call} {answer : Except Failure call.Res} (silent : call.accepts answer = [])
      (unaudited : ∀ row, call = .insertDownloadAccess row → ∃ error, answer = .error error) :
      Wrote env store call answer store
  | other {call : Incidents.Call} {answer : Except Failure call.Res} {db : Db}
      (keeps : Keeps store.db db) : Wrote env store (.incident call) answer { store with db }
  | audited {row : AuditRow} {db : Db} (reports : db.reports = store.db.reports)
      (audits : db.auditEvents = store.db.auditEvents ++ [row]) :
      Wrote env store (.insertDownloadAccess row) (.ok ()) { store with db }
  | stored {attachment : Attachment} {after : AttachmentStore}
      (stored : Stored env.now attachment store after) :
      Wrote env store (.create attachment) (.ok ()) after

theorem runCall_wrote (storage : AttachmentStorage) (env : Incidents.Env) (call : Call)
    (store : AttachmentStore) :
    Wrote env store call (runCall storage env call store).1 (runCall storage env call store).2 := by
  cases call with
  | incident call => exact .other (incident_keeps env call store.db)
  | create attachment =>
      rw [runCall]
      rcases transaction_cases env.fault Failure.database
          (PostgresAttachmentRepository.create env.now attachment) store with
        ⟨error, _, ended⟩ | ⟨value, result, ended⟩ | ⟨value, after, result, ended⟩
      · rw [ended]
        exact .reading rfl fun row same => by cases same
      · simp only [PostgresAttachmentRepository.create] at result
        split_ifs at result
        simp [bind_ok, pure, Except.pure] at result
      · rw [ended]
        exact .stored (create_stored env.now attachment store after result)
  | insertDownloadAccess row =>
      rw [runCall]
      rcases transaction_cases env.fault Failure.database
          (PostgresAttachmentRepository.insertDownloadAccess row) store with
        ⟨error, _, ended⟩ | ⟨value, result, ended⟩ | ⟨value, after, result, ended⟩
      · rw [ended]
        exact .reading rfl fun _ _ => ⟨error, rfl⟩
      · simp [PostgresAttachmentRepository.insertDownloadAccess, bind_ok, pure, Except.pure] at result
      · rw [ended]
        simp only [PostgresAttachmentRepository.insertDownloadAccess, bind_ok, pure, Except.pure,
          Except.ok.injEq, Ending.commit.injEq, true_and] at result
        obtain ⟨auditEvents, inserted, rfl⟩ := result
        obtain ⟨rfl, _⟩ := insertUnique_ok _ _ _ _ _ inserted
        exact .audited rfl rfl
  | reportExists id => exact .reading rfl fun row same => by cases same
  | findById id => exact .reading rfl fun row same => by cases same
  | findByReportId id => exact .reading rfl fun row same => by cases same
  | organizationForActor actorId => exact .reading rfl fun row same => by cases same
  | createUploadUrl objectKey contentType => exact .reading rfl fun row same => by cases same
  | createDownloadUrl objectKey => exact .reading rfl fun row same => by cases same

end SafeCameroon.Attachments
