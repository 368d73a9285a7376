import SafeCameroon.Attachments.Effects
import SafeCameroon.Library.Paging

namespace SafeCameroon.Attachments

open Table Process

structure Upload where
  time : Timestamp
  attachment : Attachment
  deriving DecidableEq

def uploads (rows : List AttachmentRow) : List Upload :=
  rows.filterMap fun row =>
    (attachmentFromRow row).toOption.map fun attachment => { time := row.createdAt, attachment }

/-- What a run has accepted beside what was there, by its calls alone. -/
def accepted (first : List Upload) (history : List (Entry)) : List Upload :=
  first ++ (Journal.contributions Call.accepts history).map fun stored =>
    { time := stored.time, attachment := stored.value }

theorem accepted_cons (first : List Upload) (entry : Entry)
    (earlier : List (Entry)) :
    accepted first (entry :: earlier) = accepted first earlier ++
      (entry.op.accepts entry.answer).map fun attachment => { time := entry.time, attachment } := by
  simp [accepted, Journal.contributions, Function.comp_def]

theorem accepted_grows (first : List Upload) (later earlier : List (Entry)) :
    accepted first earlier ⊆ accepted first (later ++ earlier) := by
  induction later with
  | nil => exact List.Subset.refl _
  | cons entry later ih =>
      rw [List.cons_append, accepted_cons]
      exact List.Subset.trans ih (List.subset_append_left _ _)

def Answers (known : List Upload) : (call : Call) → Except Failure call.Res → Prop
  | .findById id, answer => answer = .error .database ∨
      answer = .ok ((known.map (·.attachment)).find? fun attachment => attachment.id = id)
  | .findByReportId id, answer => answer = .error .database ∨ ∃ listed : List Upload,
      answer = .ok (listed.map (·.attachment)) ∧
        listed.Perm (known.filter fun upload => upload.attachment.reportId = id) ∧
        listed.Pairwise fun earlier later => earlier.time ≤ later.time
  | _, _ => True

section Reading

variable (rows : List AttachmentRow) (readable : ∀ row ∈ rows, ∃ attachment,
  attachmentFromRow row = .ok attachment)

include readable in
theorem find_uploads (id : AttachmentId) :
    (match lookup (·.id) id rows with
      | none => (.ok none : Except Failure (Option Attachment))
      | some row => (attachmentFromRow row).map some) =
      .ok (((uploads rows).map (·.attachment)).find? fun attachment => attachment.id = id) := by
  induction rows with
  | nil => rfl
  | cons row rows ih =>
      obtain ⟨attachment, read⟩ := readable row List.mem_cons_self
      have rest := ih fun other member => readable other (List.mem_cons_of_mem _ member)
      have same := (attachmentFromRow_columns read).1
      by_cases wanted : row.id = id
      · simp [lookup, uploads, read, Except.toOption, same, wanted, Except.map]
      · simp only [lookup, List.find?_cons, wanted, decide_false, uploads, List.filterMap_cons, read,
          Except.toOption, Option.map_some, List.map_cons, same]
        exact rest

include readable in
theorem list_uploads (id : ReportId) :
    uploads (rows.filter fun row => row.reportId = id) =
      (uploads rows).filter fun upload => upload.attachment.reportId = id := by
  induction rows with
  | nil => rfl
  | cons row rows ih =>
      obtain ⟨attachment, read⟩ := readable row List.mem_cons_self
      have rest := ih fun other member => readable other (List.mem_cons_of_mem _ member)
      have same := (attachmentFromRow_columns read).2.1
      by_cases wanted : row.reportId = id
      · simp only [uploads, List.filter_cons, wanted, decide_true, if_true, List.filterMap_cons, read,
          Except.toOption, Option.map_some, same] at rest ⊢
        rw [rest]
      · simp only [uploads, List.filter_cons, wanted, decide_false, Bool.false_eq_true, if_false,
          List.filterMap_cons, read, Except.toOption, Option.map_some, same] at rest ⊢
        exact rest

theorem uploads_attachments :
    (uploads rows).map (·.attachment) = rows.filterMap fun row => (attachmentFromRow row).toOption := by
  simp only [uploads, List.map_filterMap, Option.map_map]
  congr 1
  funext row
  cases (attachmentFromRow row).toOption <;> rfl

include readable in
theorem listed_uploads (tie : Uuid → Nat) (db : Db) (id : ReportId) : ∃ listed : List Upload,
    PostgresAttachmentRepository.findByReportId tie id { db, attachments := rows } =
        .ok (listed.map (·.attachment)) ∧
      listed.Perm ((uploads rows).filter fun upload => upload.attachment.reportId = id) ∧
      listed.Pairwise fun earlier later => earlier.time ≤ later.time := by
  let chosen := rows.filter fun row => row.reportId = id
  let ordered := orderBy (·.createdAt) (fun row : AttachmentRow => tie row.id.uuid) chosen
  have perm : ordered.Perm chosen := orderBy_perm _ _ _
  have each : ∀ row ∈ ordered, ∃ attachment, attachmentFromRow row = .ok attachment := by
    intro row member
    exact readable row (List.mem_of_mem_filter (perm.subset member))
  refine ⟨uploads ordered, ?_, ?_, ?_⟩
  · rw [uploads_attachments]
    exact mapM_readable attachmentFromRow ordered each
  · rw [← list_uploads rows readable id]
    exact perm.filterMap _
  · have sorted :=
      Paging.orderBy_sorted (·.createdAt) (fun row : AttachmentRow => tie row.id.uuid) chosen
    rw [uploads, List.pairwise_filterMap]
    apply sorted.imp
    intro left right order first fromLeft second fromRight
    obtain ⟨_, _, rfl⟩ := Option.map_eq_some_iff.mp fromLeft
    obtain ⟨_, _, rfl⟩ := Option.map_eq_some_iff.mp fromRight
    rcases order with less | ⟨same, _⟩
    · exact Nat.le_of_lt less
    · exact Nat.le_of_eq same

end Reading

/-- What holds of a run that began with these tables. -/
structure Kept (storage : AttachmentStorage) (init : AttachmentStore) (world : World) : Prop where
  wellformed : Wellformed world.store
  read : uploads world.store.attachments = accepted (uploads init.attachments) world.history
  audited : ∀ pid row time, (⟨pid, .insertDownloadAccess row, .ok (), time⟩ :
    Entry) ∈ world.history → row ∈ world.store.db.auditEvents
  signed : ∀ pid objectKey answer time, (⟨pid, .createDownloadUrl objectKey, answer, time⟩ :
    Entry) ∈ world.history →
      answer = .ok (storage.createDownloadUrl (time / second) objectKey)
  lawful : Journal.Lawful (fun entry earlier =>
    Answers (accepted (uploads init.attachments) earlier) entry.op entry.answer) world.history

theorem Wellformed.readable {store : AttachmentStore} (wellformed : Wellformed store) :
    ∀ row ∈ store.attachments, ∃ attachment, attachmentFromRow row = .ok attachment :=
  fun row member => attachmentFromRow_constrained row (wellformed.constrained row member)

theorem kept_initial (storage : AttachmentStorage) (init : AttachmentStore) (clock : Nat)
    (wellformed : Wellformed init) : Kept storage init (Journal.initial init clock) where
  wellformed := wellformed
  read := (List.append_nil _).symm
  audited := fun _ _ _ member => absurd member List.not_mem_nil
  signed := fun _ _ _ _ member => absurd member List.not_mem_nil
  lawful := trivial

section Step

variable {storage : AttachmentStorage} {init : AttachmentStore} {world : World}

theorem Kept.answers (kept : Kept storage init world) (call : Call) (env : Incidents.Env) :
    Answers (accepted (uploads init.attachments) world.history) call
      (runCall storage env call world.store).1 := by
  have readable := kept.wellformed.readable
  rw [← kept.read]
  cases call with
  | findById id =>
      cases fault : env.fault with
      | true => exact Or.inl (by simp [runCall, query, fault])
      | false =>
          refine Or.inr ?_
          simp only [runCall, query, fault]
          exact find_uploads world.store.attachments readable id
  | findByReportId id =>
      cases fault : env.fault with
      | true => exact Or.inl (by simp [runCall, query, fault])
      | false =>
          obtain ⟨listed, answered, perm, sorted⟩ :=
            listed_uploads world.store.attachments readable env.tie world.store.db id
          refine Or.inr ⟨listed, ?_, perm, sorted⟩
          simp only [runCall, query, fault]
          exact answered
  | _ => trivial

theorem Kept.execute (kept : Kept storage init world) (pid : Nat) (call : Call)
    (env : Incidents.Env) : Kept storage init (world.execute storage pid call env).2 := by
  have wrote := runCall_wrote storage env call world.store
  have answers := kept.answers call env
  have signed : ∀ objectKey, call = .createDownloadUrl objectKey →
      (runCall storage env call world.store).1 ≍
        (.ok (storage.createDownloadUrl (env.now / second) objectKey) :
          Except Failure (Except StorageError SignedUrl)) := by
    intro objectKey same
    subst same
    rfl
  constructor
  case signed =>
    intro other objectKey answer time member
    rw [World.execute_history] at member
    rcases List.mem_cons.mp member with latest | old
    · obtain ⟨_, rfl, same, rfl⟩ := Process.Entry.mk.inj latest
      exact eq_of_heq (same.trans (signed objectKey rfl))
    · exact kept.signed other objectKey answer time old
  case lawful =>
    rw [World.execute_history]
    exact ⟨answers, kept.lawful⟩
  all_goals
    rw [World.execute_store]
    try rw [World.execute_history]
    generalize (runCall storage env call world.store).1 = answer at wrote ⊢
    generalize (runCall storage env call world.store).2 = after at wrote ⊢
  case wellformed =>
    cases wrote with
    | reading => exact kept.wellformed
    | other keeps => exact kept.wellformed.tables keeps
    | audited reports audits =>
        refine kept.wellformed.tables ⟨?_, ?_⟩
        · rw [audits]
          exact List.subset_append_left _ _
        · rw [reports]
          exact List.Subset.refl _
    | stored stored => exact kept.wellformed.stored stored
  case read =>
    rw [accepted_cons, ← kept.read]
    cases wrote with
    | reading silent => rw [silent, List.map_nil, List.append_nil]
    | other => exact (List.append_nil _).symm
    | audited => exact (List.append_nil _).symm
    | stored stored =>
        rw [stored.rows]
        simp only [uploads, List.filterMap_append, List.filterMap_cons, List.filterMap_nil,
          attachmentFromRow_attachmentRow, Except.toOption, Option.map_some, Call.accepts,
          List.map_cons, List.map_nil]
        rfl
  case audited =>
    intro other row time member
    rcases List.mem_cons.mp member with latest | old
    · obtain ⟨_, rfl, same, _⟩ := Process.Entry.mk.inj latest
      obtain rfl := eq_of_heq same
      cases wrote with
      | reading _ unaudited =>
          obtain ⟨error, failed⟩ := unaudited row rfl
          cases failed
      | audited _ audits =>
          rw [audits]
          exact List.mem_append_right _ (List.mem_singleton_self _)
    · have before := kept.audited other row time old
      cases wrote with
      | reading => exact before
      | other keeps => exact keeps.audits before
      | audited _ audits =>
          rw [audits]
          exact List.mem_append_left _ before
      | stored stored =>
          rw [stored.rows]
          exact before

theorem Kept.found (kept : Kept storage init world) (pid : Nat) (id : AttachmentId)
    (attachment : Attachment)
    (found : (⟨.findById id, .ok (some attachment)⟩ : Exchange attachmentInterface) ∈
      Journal.trace pid world) :
    attachment.id = id ∧ attachment ∈ (uploads world.store.attachments).map (·.attachment) := by
  obtain ⟨time, member⟩ := (Journal.mem_trace _ _ _ _).mp found
  obtain ⟨later, earlier, split, answers⟩ := kept.lawful.mem member
  rcases answers with failed | known
  · cases failed
  · have first := (Except.ok.inj known).symm
    have same : attachment.id = id := by simpa using List.find?_some first
    obtain ⟨upload, there, rfl⟩ := List.mem_map.mp (List.mem_of_find?_eq_some first)
    have still : upload ∈ uploads world.store.attachments := by
      rw [kept.read, split, List.append_cons]
      exact accepted_grows _ _ _ there
    exact ⟨same, List.mem_map.mpr ⟨upload, still, rfl⟩⟩

end Step

/-- In every run the tables hold what the calls so far have stored, and every look-up saw just that. -/
theorem kept_reach (deployment : Deployment) (jobs : Nat → Job) (init : AttachmentStore) (clock : Nat)
    (wellformed : Wellformed init) (config : deployment.Pool)
    (reached : deployment.Reaches jobs init clock config) :
    Kept deployment.storage init config.state := by
  refine reach_holds deployment.freeRules (deployment.pool jobs) _ _ ?_ ?_ config reached
  · exact kept_initial deployment.storage init clock wellformed
  · intro pid call env world _ kept
    exact kept.execute pid call env

end SafeCameroon.Attachments
