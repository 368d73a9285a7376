import SafeCameroon.Attachments.Records
import SafeCameroon.Incidents.Honest

namespace SafeCameroon.Attachments

open Process Proc Text

/-- The calls of one request with their answers, the latest first. -/
abbrev Past := List (Exchange attachmentInterface)

abbrev Asked (past : Past) (call : Call) (answer : Except Failure call.Res) : Prop :=
  ⟨call, answer⟩ ∈ past

abbrev made (past : Past) : List Attachment := Journal.contributed Call.accepts past

/-- What a request knows from the calls that other requests make as well. -/
def knownIncidents (past : Past) : Incidents.Known :=
  fun call answer => Asked past (.incident call) answer

def Job.headers : Job → List (String × Bytes)
  | .createAttachment _ headers _ _ => headers
  | .listAttachments _ headers _ | .createDownloadUrl _ headers _ => headers
  | .incident _ => []

/-- The id that the path of the request spells. -/
def Job.target : Job → Option Uuid
  | .createAttachment _ _ segment _ | .listAttachments _ _ segment | .createDownloadUrl _ _ segment =>
      Uuid.parseStr segment
  | .incident _ => none

inductive Declares (storage : AttachmentStorage) : Job → Attachment → Prop where
  | intro {fresh : Supply} {headers : List (String × Bytes)} {segment : String}
      {request : CreateAttachmentRequest} {report : Uuid} {contentType : AttachmentContentType}
      (target : Uuid.parseStr segment = some report)
      (accepted : AttachmentContentType.fromMimeType request.contentType = some contentType) :
      Declares storage (.createAttachment fresh headers segment request)
        { id := ⟨fresh 1⟩, reportId := ⟨report⟩, storageProvider := storage.storageProvider
          objectKey := attachmentObjectKey ⟨report⟩ (fresh 0), contentType
          sizeBytes := request.sizeBytes, checksum := request.checksum }

def createdResponse (attachment : Attachment) (upload : SignedUrl) : CreateAttachmentResponse :=
  { attachmentId := attachment.id.uuid, objectKey := attachment.objectKey, uploadUrl := upload.url
    uploadExpiresInSeconds := upload.expiresIn }

structure Administers (deployment : Deployment) (job : Job) (past : Past) (reviewerId : Uuid) :
    Prop where
  named : Incidents.ActorKnown deployment.server.verify job.headers (knownIncidents past)
    (.reviewer reviewerId)
  admin : Incidents.AdminKnown (knownIncidents past) reviewerId

/-- The request asks for the download of the attachment, and may. -/
structure Entitled (deployment : Deployment) (job : Job) (past : Past) (reviewerId : Uuid)
    (attachment : Attachment) : Prop where
  administers : Administers deployment job past reviewerId
  asks : ∃ fresh headers segment, job = .createDownloadUrl fresh headers segment
  found : ∃ id, job.target = some id ∧ Asked past (.findById ⟨id⟩) (.ok (some attachment))

/-- What a request has to know before a call; and it stores one attachment at most. -/
def Proper (deployment : Deployment) (job : Job) (past : Past) (call : Call) : Prop :=
  made past = [] ∧ match call with
    | .create attachment => Declares deployment.storage job attachment ∧ attachment.Checked
    | .createDownloadUrl objectKey => ∃ reviewerId attachment,
        Entitled deployment job past reviewerId attachment ∧ attachment.objectKey = objectKey
    | _ => True

def Accounts (reviewerId : Uuid) (attachmentId : AttachmentId) (row : AuditRow) : Prop :=
  ∃ auditEventId organizationId requestId, row = PostgresAttachmentRepository.downloadAccessRow
    auditEventId (.reviewer reviewerId) organizationId attachmentId requestId

def Ends (deployment : Deployment) (job : Job) (past : Past) : Except HandlerError Reply → Prop
  | .ok (.created response) => ∃ attachment upload, made past = [attachment] ∧
      Declares deployment.storage job attachment ∧ attachment.Checked ∧
      Asked past (.createUploadUrl attachment.objectKey attachment.contentType) (.ok (.ok upload)) ∧
      response = createdResponse attachment upload
  | .ok (.listed response) => made past = [] ∧ ∃ reviewerId report attachments,
      Administers deployment job past reviewerId ∧ job.target = some report ∧
      Asked past (.findByReportId ⟨report⟩) (.ok attachments) ∧
      response = attachments.map attachmentSummaryResponse
  | .ok (.download response) => made past = [] ∧ ∃ reviewerId attachment download row,
      Entitled deployment job past reviewerId attachment ∧
      Asked past (.createDownloadUrl attachment.objectKey) (.ok (.ok download)) ∧
      response = { downloadUrl := download.url, expiresInSeconds := download.expiresIn } ∧
      Asked past (.insertDownloadAccess row) (.ok ()) ∧ Accounts reviewerId attachment.id row
  | _ => made past = []

theorem made_failed (call : Call) (failure : Failure) (past : Past) (nothing : made past = []) :
    made (⟨call, .error failure⟩ :: past) = [] := by
  have silent : call.accepts (.error failure) = [] := by cases call <;> rfl
  simpa only [made, Journal.contributed, List.flatMap_cons, silent, List.nil_append] using nothing

section Grown

variable {deployment : Deployment} {job : Job} {past later : Past} (grown : past ⊆ later)
include grown

theorem knownIncidents_mono (call : Incidents.Call) (answer : Except Failure call.Res)
    (known : knownIncidents past call answer) : knownIncidents later call answer := grown known

theorem Administers.mono {reviewerId : Uuid}
    (administers : Administers deployment job past reviewerId) :
    Administers deployment job later reviewerId where
  named := administers.named.mono (knownIncidents_mono grown)
  admin := administers.admin.mono (knownIncidents_mono grown)

theorem Entitled.mono {reviewerId : Uuid} {attachment : Attachment}
    (entitled : Entitled deployment job past reviewerId attachment) :
    Entitled deployment job later reviewerId attachment where
  administers := entitled.administers.mono grown
  asks := entitled.asks
  found := by
    obtain ⟨id, target, asked⟩ := entitled.found
    exact ⟨id, target, grown asked⟩

end Grown

section Handlers

variable {deployment : Deployment} {job : Job} {α β : Type} {past : Past}
  {post : Past → Except HandlerError β → Prop}
  (fails : ∀ past error, made past = [] → post past (.error error))
include fails

/-- A handler of the other requests stores nothing, and what it found out is known afterwards. -/
theorem honest_incident (handler : Incidents.Handler α) (rest : α → Handler β)
    {inner : List (Exchange Incidents.incidentInterface) → Incidents.Call → Prop}
    (ended : List (Exchange Incidents.incidentInterface) → Except HandlerError α → Prop)
    (honest : handler.Honest inner ended []) (nothing : made past = [])
    (next : ∀ later told value, made later = [] → past ⊆ later →
      (∀ call answer, Incidents.knownFrom told call answer → knownIncidents later call answer) →
      ended told (.ok value) → (rest value).Honest (Proper deployment job) post later) :
    ((incident handler).bind rest).Honest (Proper deployment job) post past := by
  have proves : ∀ past call, made past = [] → Proper deployment job past (.incident call) :=
    fun past call nothing => ⟨nothing, trivial⟩
  have keeps : ∀ (past : Past) (call : Incidents.Call) (answer : Except Failure call.Res),
      made past = [] → made (⟨.incident call, answer⟩ :: past) = [] :=
    fun past call answer nothing => nothing
  have lifted := honest_embed Call.incident (fun _ answer => answer) (fun past => made past = [])
    proves keeps _ handler [] past honest (fun exchange member => absurd member List.not_mem_nil)
    nothing
  refine honest_bind _ _ _ _ past lifted ?_ ?_
  · intro later value known
    obtain ⟨empty, grown, told, remembers, holds⟩ := known
    refine next later told value empty grown ?_ holds
    intro call answer asked
    obtain ⟨received, there, same⟩ := remembers ⟨call, answer⟩ asked
    dsimp only at same
    rw [← same]
    exact there
  · intro later error known
    exact fails later error known.1

theorem honest_orFail (error : ApiError) (call : Call) (rest : call.Res → Handler β)
    (proper : Proper deployment job past call)
    (next : ∀ value, (rest value).Honest (Proper deployment job) post (⟨call, .ok value⟩ :: past)) :
    ((orFail error call).bind rest).Honest (Proper deployment job) post past := by
  refine honest_perform _ _ _ _ past proper next ?_
  intro failure
  have silent := made_failed call failure past proper.1
  cases failure with
  | database => exact fails _ _ silent
  | panic message => exact fails _ _ silent

theorem honest_askStorage (call : Call) (rest : call.Res → Handler β)
    (proper : Proper deployment job past call)
    (next : ∀ value, (rest value).Honest (Proper deployment job) post (⟨call, .ok value⟩ :: past)) :
    ((askStorage call).bind rest).Honest (Proper deployment job) post past := by
  refine honest_perform _ _ _ _ past proper next ?_
  intro failure
  have silent := made_failed call failure past proper.1
  exact fails _ _ silent

theorem honest_route (path : String) (method : Incidents.Method) (requestId : Uuid)
    (segment : String) (handler : Uuid → Handler β) (nothing : made past = [])
    (behind : ∀ later id, made later = [] → Uuid.parseStr segment = some id →
      (Incidents.OrganizationAccess.platformOnly path method = true →
        ∃ reviewerId, Administers deployment job later reviewerId) →
      (handler id).Honest (Proper deployment job) post later) :
    (deployment.route path method job.headers requestId segment handler).Honest
      (Proper deployment job) post past := by
  let fact : List (Exchange Incidents.incidentInterface) → Unit → Prop := fun told _ =>
    Incidents.OrganizationAccess.platformOnly path method = true → ∃ reviewerId,
      Incidents.ActorKnown deployment.server.verify job.headers (Incidents.knownFrom told)
        (.reviewer reviewerId) ∧ Incidents.AdminKnown (Incidents.knownFrom told) reviewerId
  have layer : (Incidents.OrganizationAccess.restrictIncidentAccess deployment.server.verify path
      method job.headers requestId (.done ())).Yields
        (Incidents.minds deployment.server job.headers (.createAttachment segment (.ok ()))) fact [] :=
    Incidents.restrictIncidentAccess_yields path method requestId _ fact [] fun later known =>
      yields_done _ _ _ known
  refine honest_incident fails _ _ _ layer nothing ?_
  intro second told _ empty _ knows admitted
  have spelled : (Incidents.pathId requestId segment).Yields (fun _ _ => True)
      (fun _ id => Uuid.parseStr segment = some id) [] := by
    unfold Incidents.pathId
    split
    · rename_i id parsed
      exact yields_done _ _ _ parsed
    · exact yields_fail _ _ _
  refine honest_incident fails _ _ _ spelled empty ?_
  intro third _ id still grown _ parsed
  refine behind third id still (parsed.2 id rfl) ?_
  intro restricted
  obtain ⟨reviewerId, named, admin⟩ := admitted.2 () rfl restricted
  have administers : Administers deployment job second reviewerId :=
    ⟨named.mono knows, admin.mono knows⟩
  exact ⟨reviewerId, administers.mono grown⟩

end Handlers

section Replies

variable {deployment : Deployment} {job : Job} {past : Past}

abbrev EndsAs {α : Type} (deployment : Deployment) (job : Job) (wrap : α → Reply) (past : Past)
    (result : Except HandlerError α) : Prop :=
  Ends deployment job past (result.map wrap)

theorem endsAs_error (deployment : Deployment) (job : Job) {α : Type} (wrap : α → Reply)
    (past : Past) (error : HandlerError) (nothing : made past = []) :
    EndsAs deployment job wrap past (.error error) := nothing

theorem createAttachment_honest (fresh : Supply) (headers : List (String × Bytes)) (segment : String)
    (request : CreateAttachmentRequest) (report requestId : Uuid)
    (asks : job = .createAttachment fresh headers segment request)
    (target : Uuid.parseStr segment = some report) (nothing : made past = []) :
    (createAttachment deployment.storage fresh job.headers ⟨report⟩ request requestId).Honest
      (Proper deployment job) (EndsAs deployment job .created) past := by
  have fails := endsAs_error deployment job Reply.created
  have limited : (Incidents.Reports.enforceRateLimit .attachmentUploadRequest job.headers
      requestId).Yields (Incidents.minds deployment.server job.headers
        (.createAttachment segment (.ok ()))) (fun _ _ => True) [] :=
    Incidents.enforceRateLimit_yields _ requestId []
  refine honest_incident fails _ _ _ limited nothing ?_
  intro second _ _ empty _ _ _
  refine honest_orFail fails _ (.reportExists ⟨report⟩) _ ⟨empty, trivial⟩ fun known => ?_
  dsimp only
  split
  · split
    · exact fails _ (.api (unsupportedContentType requestId)) empty
    · rename_i contentType accepted
      unfold prepareAttachmentUpload
      dsimp only
      split
      · rename_i error _
        exact fails _ (.api (prepareError requestId (.invalid error))) empty
      · rename_i attachment declared
        obtain ⟨same, checked⟩ := Attachment.new_ok declared
        have key : attachment.objectKey = attachmentObjectKey ⟨report⟩ (fresh 0) := by rw [same]
        have kind : attachment.contentType = contentType := by rw [same]
        have declares : Declares deployment.storage job attachment := by
          rw [asks, same]
          exact .intro target accepted
        rw [bind_def, bind_def, bind_assoc]
        refine honest_askStorage fails (.createUploadUrl _ contentType) _ ⟨empty, trivial⟩ ?_
        intro answer
        cases answer with
        | error reason => exact fails _ (.api (prepareError requestId (.storage reason))) empty
        | ok upload =>
            refine honest_orFail fails _ (.create attachment) _ ⟨empty, declares, checked⟩ ?_
            intro _
            refine ⟨attachment, upload, ?_, declares, checked, ?_, rfl⟩
            · exact congrArg (attachment :: ·) empty
            · rw [key, kind]
              exact List.mem_cons_of_mem _ List.mem_cons_self
  · exact fails _ (.api (reportNotFound requestId)) empty

theorem honest_actor {β : Type} {post : Past → Except HandlerError β → Prop}
    (fails : ∀ past error, made past = [] → post past (.error error)) (segment : String)
    (requestId reviewerId : Uuid) (rest : Actor → Handler β)
    (administers : Administers deployment job past reviewerId) (nothing : made past = [])
    (next : ∀ later, made later = [] → Administers deployment job later reviewerId →
      (rest (.reviewer reviewerId)).Honest (Proper deployment job) post later) :
    ((incident (Incidents.Reviewer.actorFromHeaders deployment.server.verify job.headers
      requestId)).bind rest).Honest (Proper deployment job) post past := by
  have named : (Incidents.Reviewer.actorFromHeaders deployment.server.verify job.headers
      requestId).Yields (Incidents.minds deployment.server job.headers
        (.createAttachment segment (.ok ()))) _ [] :=
    Incidents.actorFromHeaders_yields requestId []
  refine honest_incident fails _ _ _ named nothing ?_
  intro later told actor empty grown knows named
  have still := administers.mono grown
  obtain rfl := ((named.2 actor rfl).mono knows).unique still.named
  exact next later empty still

theorem listAttachments_honest (segment : String) (report requestId reviewerId : Uuid)
    (target : job.target = some report) (administers : Administers deployment job past reviewerId)
    (nothing : made past = []) :
    (listAttachmentsForReport deployment.server.verify job.headers ⟨report⟩ requestId).Honest
      (Proper deployment job) (EndsAs deployment job .listed) past := by
  have fails := endsAs_error deployment job Reply.listed
  refine honest_actor fails segment requestId reviewerId _ administers nothing ?_
  intro later empty still
  refine honest_orFail fails _ (.findByReportId ⟨report⟩) _ ⟨empty, trivial⟩ fun attachments => ?_
  exact ⟨empty, reviewerId, report, attachments, still.mono (List.subset_cons_self _ _), target,
    List.mem_cons_self, rfl⟩

theorem createDownloadUrl_honest (fresh : Supply) (headers : List (String × Bytes)) (segment : String)
    (id requestId reviewerId : Uuid) (asks : job = .createDownloadUrl fresh headers segment)
    (target : job.target = some id) (administers : Administers deployment job past reviewerId)
    (nothing : made past = []) :
    (createDownloadUrl deployment.server.verify fresh job.headers ⟨id⟩ requestId).Honest
      (Proper deployment job) (EndsAs deployment job .download) past := by
  have fails := endsAs_error deployment job Reply.download
  refine honest_actor fails segment requestId reviewerId _ administers nothing ?_
  intro second empty still
  refine honest_orFail fails _ (.findById ⟨id⟩) _ ⟨empty, trivial⟩ fun found => ?_
  cases found with
  | none => exact fails _ (.api (attachmentNotFound requestId)) empty
  | some attachment =>
      have entitled : Entitled deployment job
          (⟨.findById ⟨id⟩, .ok (some attachment)⟩ :: second) reviewerId attachment :=
        ⟨still.mono (List.subset_cons_self _ _), ⟨fresh, headers, segment, asks⟩, id, target,
          List.mem_cons_self⟩
      refine honest_askStorage fails (.createDownloadUrl attachment.objectKey) _
        ⟨empty, reviewerId, attachment, entitled, rfl⟩ fun answer => ?_
      cases answer with
      | error reason => exact fails _ (.api (storageUnavailable requestId)) empty
      | ok download =>
          dsimp only [recordDownloadAccess]
          rw [bind_def, bind_def, bind_assoc]
          refine honest_orFail fails _ (.organizationForActor _) _ ⟨empty, trivial⟩ ?_
          intro organizationId
          refine honest_orFail fails _ (.insertDownloadAccess _) _ ⟨empty, trivial⟩ fun _ => ?_
          refine ⟨empty, reviewerId, attachment, download, _, entitled.mono ?_, ?_, rfl,
            List.mem_cons_self, fresh 2, organizationId, requestId, rfl⟩
          · intro exchange member
            exact List.mem_cons_of_mem _ (List.mem_cons_of_mem _ (List.mem_cons_of_mem _ member))
          · exact List.mem_cons_of_mem _ (List.mem_cons_of_mem _ List.mem_cons_self)

theorem honest_reply {α : Type} (wrap : α → Reply) (handler : Handler α)
    (honest : handler.Honest (Proper deployment job) (EndsAs deployment job wrap) past) :
    (handler.bind fun value => .done (wrap value)).Honest (Proper deployment job)
      (Ends deployment job) past :=
  honest_bind _ _ handler _ past honest (fun _ _ ended => ended) (fun _ _ ended => ended)

theorem incident_honest (job : Incidents.Job) (past : Past) (nothing : made past = []) :
    (deployment.run (.incident job)).Honest (Proper deployment (.incident job))
      (Ends deployment (.incident job)) past := by
  refine honest_incident (fun _ _ empty => empty) _ _ _
    (Incidents.run_honest deployment.server job) nothing ?_
  intro later _ _ empty _ _ _
  exact empty

theorem platformOnly_attachments (segment : String) : Incidents.OrganizationAccess.platformOnly
    ("/v1/reports/" ++ segment ++ "/attachments") .get = true := by
  simp (disch := decide +kernel) [Incidents.OrganizationAccess.platformOnly]

theorem platformOnly_download (segment : String) : Incidents.OrganizationAccess.platformOnly
    ("/v1/attachments/" ++ segment ++ "/download-url") .get = true := by
  simp (disch := decide +kernel) [Incidents.OrganizationAccess.platformOnly]

theorem run_honest (deployment : Deployment) (job : Job) :
    (deployment.run job).Honest (Proper deployment job) (Ends deployment job) [] := by
  cases job with
  | incident other => exact incident_honest other [] rfl
  | createAttachment fresh headers segment request =>
      refine honest_reply .created _ ?_
      refine honest_route (endsAs_error deployment _ .created) _ _ _ segment _ rfl ?_
      intro later report empty target _
      exact createAttachment_honest fresh headers segment request report _ rfl target empty
  | listAttachments fresh headers segment =>
      refine honest_reply .listed _ ?_
      refine honest_route (endsAs_error deployment _ .listed) _ _ _ segment _ rfl ?_
      intro later report empty target admitted
      obtain ⟨reviewerId, administers⟩ := admitted (platformOnly_attachments segment)
      exact listAttachments_honest segment report _ reviewerId target administers empty
  | createDownloadUrl fresh headers segment =>
      refine honest_reply .download _ ?_
      refine honest_route (endsAs_error deployment _ .download) _ _ _ segment _ rfl ?_
      intro later id empty target admitted
      obtain ⟨reviewerId, administers⟩ := admitted (platformOnly_download segment)
      exact createDownloadUrl_honest fresh headers segment id _ reviewerId rfl target administers empty

end Replies

end SafeCameroon.Attachments
