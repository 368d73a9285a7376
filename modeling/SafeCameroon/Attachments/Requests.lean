import SafeCameroon.Api.Attachments
import SafeCameroon.Incidents.Requests

namespace SafeCameroon.Attachments

open Process

/-- A request about attachments with its headers and the identifiers its handler draws, or any other
request. An id stands in the path as the text that the request spells it with. -/
inductive Job where
  | createAttachment (fresh : Supply) (headers : List (String × Bytes)) (segment : String)
      (request : CreateAttachmentRequest)
  | listAttachments (fresh : Supply) (headers : List (String × Bytes)) (segment : String)
  | createDownloadUrl (fresh : Supply) (headers : List (String × Bytes)) (segment : String)
  | incident (job : Incidents.Job)

inductive Reply where
  | created (response : CreateAttachmentResponse)
  | listed (response : List AttachmentSummaryResponse)
  | download (response : DownloadUrlResponse)
  | incident

structure Deployment where
  server : Incidents.Server
  storage : AttachmentStorage

namespace Deployment

variable (deployment : Deployment)

def route {α : Type} (path : String) (method : Incidents.Method) (headers : List (String × Bytes))
    (requestId : Uuid) (segment : String) (handler : Uuid → Handler α) : Handler α := do
  incident (Incidents.OrganizationAccess.restrictIncidentAccess deployment.server.verify path method
    headers requestId (.done ()))
  let id ← incident (Incidents.pathId requestId segment)
  handler id

def run : Job → Handler Reply
  | .createAttachment fresh headers segment request => do
      let requestId := requestIdFromHeaders (fresh 3) headers
      let response ← deployment.route ("/v1/reports/" ++ segment ++ "/attachments") .post headers
        requestId segment fun id =>
          createAttachment deployment.storage fresh headers ⟨id⟩ request requestId
      return .created response
  | .listAttachments fresh headers segment => do
      let requestId := requestIdFromHeaders (fresh 3) headers
      let response ← deployment.route ("/v1/reports/" ++ segment ++ "/attachments") .get headers
        requestId segment fun id =>
          listAttachmentsForReport deployment.server.verify headers ⟨id⟩ requestId
      return .listed response
  | .createDownloadUrl fresh headers segment => do
      let requestId := requestIdFromHeaders (fresh 3) headers
      let response ← deployment.route ("/v1/attachments/" ++ segment ++ "/download-url") .get headers
        requestId segment fun id =>
          createDownloadUrl deployment.server.verify fresh headers ⟨id⟩ requestId
      return .download response
  | .incident job => do
      incident (deployment.server.run job)
      return .incident

abbrev pool (jobs : Nat → Job) : Nat → Handler Reply := fun pid => deployment.run (jobs pid)

abbrev Pool := Config (attachmentMachine deployment.storage) HandlerError Reply

/-- Requests meet in any order, any call may fail, and any request may be dropped between two calls. -/
abbrev freeRules : Rules (attachmentMachine deployment.storage) := .free _

abbrev Reaches (jobs : Nat → Job) (init : AttachmentStore) (clock : Nat) : deployment.Pool → Prop :=
  Reach deployment.freeRules (deployment.pool jobs) (initially (Journal.initial init clock))

end Deployment

end SafeCameroon.Attachments
