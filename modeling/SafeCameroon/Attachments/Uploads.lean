import SafeCameroon.Attachments.Honest
import SafeCameroon.Incidents.CaseRuns
import SafeCameroon.Infrastructure.AttachmentStorage

namespace SafeCameroon.Attachments

open Process

namespace Scenario

def deployment : Deployment :=
  { server := Incidents.Scenario.server
    storage := HmacSignedAttachmentStorage.attachmentStorage (fun _ text => [UInt8.ofNat text.length])
      ⟨[1]⟩ "https://files.example" }

def store : AttachmentStore := { db := Incidents.Scenario.store, attachments := [] }

theorem store_wellformed : Wellformed store where
  constrained := fun _ member => absurd member List.not_mem_nil
  distinct := List.nodup_nil
  placed := List.nodup_nil
  reported := fun _ member => absurd member List.not_mem_nil

def segment : String := "00000000-0000-0000-0000-000000000001"

def jobs : Nat → Job
  | 0 => .createAttachment (Supply.of 0) [] segment
      { contentType := "image/png", sizeBytes := 3, checksum := "sum" }
  | 1 => .listAttachments (Supply.of 1) (Incidents.Scenario.signedIn "admin") segment
  | pid => .createDownloadUrl (Supply.of pid) (Incidents.Scenario.signedIn "admin")
      segment

def schedule : List (Label Incidents.Env) :=
  Incidents.Scenario.runs 0 4 ++ Incidents.Scenario.runs 1 4 ++ Incidents.Scenario.runs 2 7

def answered (config : deployment.Pool) : Bool :=
  match config.slots 0, config.slots 1, config.slots 2 with
  | .active (.done (.created _)), .active (.done (.listed [_])), .active (.done (.download _)) => true
  | _, _, _ => false

theorem arrived : ∃ (config : deployment.Pool) (created : CreateAttachmentResponse)
    (summary : AttachmentSummaryResponse) (download : DownloadUrlResponse),
    deployment.Reaches jobs store 0 config ∧
      config.slots 0 = .active (.done (.created created)) ∧
      config.slots 1 = .active (.done (.listed [summary])) ∧
      config.slots 2 = .active (.done (.download download)) := by
  have run : (play (deployment.pool jobs) (fun _ _ => true) schedule
      (initially (Journal.initial store 0) : deployment.Pool)).any answered = true := by
    decide +kernel
  obtain ⟨config, reached, ends⟩ := play_freely _ _ _ _ run
  unfold answered at ends
  split at ends
  · rename_i created summary download first second third
    exact ⟨config, created, summary, download, reached, first, second, third⟩
  · cases ends

end Scenario

section

variable (deployment : Deployment) (jobs : Nat → Job) (init : AttachmentStore) (clock : Nat)
  (wellformed : Wellformed init) (config : deployment.Pool)
  (reached : deployment.Reaches jobs init clock config)

include reached in
theorem told_pool (pid : Nat) : Told (recorded deployment.storage)
    (fun pid => Proper deployment (jobs pid)) (fun pid => Ends deployment (jobs pid)) config pid :=
  told_reach (recorded deployment.storage) deployment.freeRules _ _ (deployment.pool jobs)
    (fun pid => run_honest deployment (jobs pid)) (initially (Journal.initial init clock))
    (fun _ => rfl) config reached pid

include reached in
theorem made_pool (pid : Nat) (stored : made (Journal.trace pid config.state) ≠ []) :
    ∃ attachment upload, made (Journal.trace pid config.state) = [attachment] ∧
      Declares deployment.storage (jobs pid) attachment ∧ attachment.Checked ∧
      config.slots pid = .active (.done (.created (createdResponse attachment upload))) := by
  have told := told_pool deployment jobs init clock config reached pid
  cases slot : config.slots pid with
  | waiting =>
      simp only [Told, slot] at told
      rw [show Journal.trace pid config.state = [] from told] at stored
      exact absurd rfl stored
  | gone =>
      obtain ⟨call, proper⟩ := gone_proper (recorded deployment.storage) deployment.freeRules _
        (fun pid => Ends deployment (jobs pid)) (deployment.pool jobs)
        (fun pid => run_honest deployment (jobs pid)) (initially (Journal.initial init clock))
        (fun _ => rfl) (fun _ gone => by cases gone) config reached pid slot
      exact absurd proper.1 stored
  | active rest =>
      simp only [Told, slot] at told
      cases rest with
      | call call next => exact absurd told.1.1 stored
      | fail error => exact absurd told stored
      | done reply =>
          cases reply with
          | created response =>
              obtain ⟨attachment, upload, one, declares, checked, _, rfl⟩ := told
              exact ⟨attachment, upload, one, declares, checked, rfl⟩
          | listed response => exact absurd told.1 stored
          | download response => exact absurd told.1 stored
          | incident => exact absurd told stored

include wellformed reached in
theorem uploads_of_created : ∃ added : List (Journal.Contribution Attachment),
    uploads config.state.store.attachments =
        uploads init.attachments ++ added.map (fun stored => ⟨stored.time, stored.value⟩) ∧
      Wellformed config.state.store ∧ (added.map (·.pid)).Nodup ∧
      (∀ stored ∈ added, Declares deployment.storage (jobs stored.pid) stored.value ∧
        stored.value.Checked ∧ ∃ upload, config.slots stored.pid =
          .active (.done (.created (createdResponse stored.value upload)))) ∧
      ∀ pid response, config.slots pid = .active (.done (.created response)) →
        ∃ stored ∈ added, ∃ upload, stored.pid = pid ∧
          response = createdResponse stored.value upload := by
  have kept := kept_reach deployment jobs init clock wellformed config reached
  have stored := made_pool deployment jobs init clock config reached
  let added : List (Journal.Contribution Attachment) :=
    Journal.contributions Call.accepts config.state.history
  refine ⟨added, kept.read, kept.wellformed, ?_, ?_, ?_⟩
  · apply Journal.contributions_nodup
    intro pid
    change (made (Journal.trace pid config.state)).length ≤ 1
    by_cases silent : made (Journal.trace pid config.state) = []
    · rw [silent]
      exact Nat.zero_le 1
    · obtain ⟨attachment, _, one, _⟩ := stored pid silent
      rw [one]
      exact Nat.le_refl 1
  · intro added member
    have mine : added.value ∈ made (Journal.trace added.pid config.state) :=
      (Journal.mem_contributed _ _ _ _).mpr ⟨added.time, member⟩
    obtain ⟨attachment, upload, one, declares, checked, slot⟩ :=
      stored added.pid (List.ne_nil_of_mem mine)
    rw [one, List.mem_singleton] at mine
    rw [mine]
    exact ⟨declares, checked, upload, slot⟩
  · intro pid response slot
    have told := told_pool deployment jobs init clock config reached pid
    simp only [Told, slot] at told
    obtain ⟨attachment, upload, one, _, _, _, same⟩ := told
    have mine : attachment ∈ made (Journal.trace pid config.state) := by
      rw [show made (Journal.trace pid config.state) = [attachment] from one]
      exact List.mem_singleton_self _
    obtain ⟨time, member⟩ := (Journal.mem_contributed _ _ _ _).mp mine
    exact ⟨_, member, upload, rfl, same⟩

theorem uploads_of_created_picture : ∃ (config : Scenario.deployment.Pool) (upload : Upload)
    (url : SignedUrl),
    upload ∈ uploads config.state.store.attachments ∧
      config.slots 0 = .active (.done (.created (createdResponse upload.attachment url))) := by
  obtain ⟨config, created, _, _, reached, slot, _, _⟩ := Scenario.arrived
  obtain ⟨added, read, _, _, _, answered⟩ :=
    uploads_of_created Scenario.deployment Scenario.jobs Scenario.store 0 Scenario.store_wellformed
      config reached
  obtain ⟨stored, member, url, _, rfl⟩ := answered 0 created slot
  refine ⟨config, ⟨stored.time, stored.value⟩, url, ?_, slot⟩
  rw [read]
  exact List.mem_append_right _ (List.mem_map_of_mem member)

/-- A platform admin, and nobody else, is shown what was attached to the report at one moment of the
request, the earliest first. -/
theorem listings_of_uploads (wellformed : Wellformed init)
    (reached : deployment.Reaches jobs init clock config) (pid : Nat)
    (response : List AttachmentSummaryResponse)
    (listed : config.slots pid = .active (.done (.listed response))) :
    ∃ (reviewerId report : Uuid) (later earlier : List (Entry)) (time : Nat)
      (shown : List Upload),
      Administers deployment (jobs pid) (Journal.trace pid config.state) reviewerId ∧
      (jobs pid).target = some report ∧
      config.state.history = later ++ ⟨pid, .findByReportId ⟨report⟩, .ok (shown.map (·.attachment)),
        time⟩ :: earlier ∧
      shown.Perm ((accepted (uploads init.attachments) earlier).filter fun upload =>
        upload.attachment.reportId = ⟨report⟩) ∧
      (shown.Pairwise fun first second => first.time ≤ second.time) ∧
      response = shown.map fun upload => attachmentSummaryResponse upload.attachment := by
  have kept := kept_reach deployment jobs init clock wellformed config reached
  have told := told_pool deployment jobs init clock config reached pid
  simp only [Told, listed] at told
  obtain ⟨_, reviewerId, report, attachments, administers, target, asked, rfl⟩ := told
  obtain ⟨time, member⟩ := (Journal.mem_trace _ _ _ _).mp asked
  obtain ⟨later, earlier, split, answers⟩ := kept.lawful.mem member
  rcases answers with failed | ⟨shown, same, perm, sorted⟩
  · cases failed
  · obtain rfl := Except.ok.inj same
    refine ⟨reviewerId, report, later, earlier, time, shown, administers, target, split, perm, sorted,
      ?_⟩
    rw [List.map_map]
    rfl

theorem listings_of_uploads_picture : ∃ (config : Scenario.deployment.Pool) (shown : List Upload),
    shown.length = 1 ∧ config.slots 1 = .active (.done (.listed
      (shown.map fun upload => attachmentSummaryResponse upload.attachment))) := by
  obtain ⟨config, _, summary, _, reached, _, slot, _⟩ := Scenario.arrived
  obtain ⟨_, _, _, _, _, shown, _, _, _, _, _, same⟩ := listings_of_uploads
    Scenario.deployment Scenario.jobs Scenario.store 0 config Scenario.store_wellformed reached 1
    [summary] slot
  have one := congrArg List.length same
  rw [List.length_map] at one
  exact ⟨config, shown, one.symm, same ▸ slot⟩

theorem Entitled.stored (kept : Kept deployment.storage init config.state) (pid : Nat)
    (past : Past) (heard : past ⊆ Journal.trace pid config.state) (reviewerId : Uuid)
    (attachment : Attachment) (entitled : Entitled deployment (jobs pid) past reviewerId attachment) :
    (jobs pid).target = some attachment.id.uuid ∧
      attachment ∈ (uploads config.state.store.attachments).map (·.attachment) := by
  obtain ⟨id, target, asked⟩ := entitled.found
  obtain ⟨same, stored⟩ := kept.found pid ⟨id⟩ attachment (heard asked)
  rw [same]
  exact ⟨target, stored⟩

/-- The storage signs a download for a platform admin only and only for what is stored under the id
that was asked for, and no such address is answered with before it is on record who has it. -/
theorem downloads_accounted (wellformed : Wellformed init)
    (reached : deployment.Reaches jobs init clock config) :
    (∀ pid objectKey answer time, (⟨pid, .createDownloadUrl objectKey, answer, time⟩ :
        Entry) ∈ config.state.history → ∃ reviewerId attachment,
      Administers deployment (jobs pid) (Journal.trace pid config.state) reviewerId ∧
      (jobs pid).target = some attachment.id.uuid ∧
      attachment ∈ (uploads config.state.store.attachments).map (·.attachment) ∧
      attachment.objectKey = objectKey) ∧
    ∀ pid response, config.slots pid = .active (.done (.download response)) →
      ∃ reviewerId attachment issued,
        Administers deployment (jobs pid) (Journal.trace pid config.state) reviewerId ∧
        (jobs pid).target = some attachment.id.uuid ∧
        attachment ∈ (uploads config.state.store.attachments).map (·.attachment) ∧
        deployment.storage.createDownloadUrl issued attachment.objectKey =
          .ok ⟨response.downloadUrl, response.expiresInSeconds⟩ ∧
        ∃ row ∈ config.state.store.db.auditEvents, Accounts reviewerId attachment.id row := by
  have kept := kept_reach deployment jobs init clock wellformed config reached
  constructor
  · intro pid objectKey answer time member
    have justified := justified_reach (recorded deployment.storage) deployment.freeRules _
      (fun pid => Ends deployment (jobs pid)) (deployment.pool jobs)
      (fun pid => run_honest deployment (jobs pid)) (initially (Journal.initial init clock))
      (fun _ => rfl) (fun _ => rfl) config reached pid
    obtain ⟨past, heard, _, reviewerId, attachment, entitled, key⟩ :=
      justified.earlier ((Journal.mem_trace _ _ _ _).mpr ⟨time, member⟩)
    obtain ⟨target, stored⟩ :=
      entitled.stored deployment jobs init config kept pid past heard reviewerId attachment
    exact ⟨reviewerId, attachment, entitled.administers.mono heard, target, stored, key⟩
  · intro pid response slot
    have told := told_pool deployment jobs init clock config reached pid
    simp only [Told, slot] at told
    obtain ⟨_, reviewerId, attachment, download, row, entitled, signed, rfl, audited, accounts⟩ := told
    obtain ⟨target, stored⟩ := entitled.stored deployment jobs init config kept pid _
      (List.Subset.refl _) reviewerId attachment
    obtain ⟨time, issued⟩ := (Journal.mem_trace _ _ _ _).mp signed
    obtain ⟨moment, wrote⟩ := (Journal.mem_trace _ _ _ _).mp audited
    have answered := Except.ok.inj (kept.signed pid attachment.objectKey _ time issued)
    exact ⟨reviewerId, attachment, time / second, entitled.administers, target, stored,
      answered.symm, row, kept.audited pid row moment wrote, accounts⟩

theorem downloads_accounted_picture : ∃ (config : Scenario.deployment.Pool) (reviewerId : Uuid)
    (attachment : Attachment), attachment ∈ (uploads config.state.store.attachments).map (·.attachment) ∧
      ∃ row ∈ config.state.store.db.auditEvents, Accounts reviewerId attachment.id row := by
  obtain ⟨config, _, _, download, reached, _, _, slot⟩ := Scenario.arrived
  obtain ⟨reviewerId, attachment, _, _, _, stored, _, audited⟩ := (downloads_accounted
    Scenario.deployment Scenario.jobs Scenario.store 0 config Scenario.store_wellformed reached).2 2
    download slot
  exact ⟨config, reviewerId, attachment, stored, audited⟩

end

end SafeCameroon.Attachments
