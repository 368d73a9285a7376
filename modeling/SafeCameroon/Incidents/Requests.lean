import SafeCameroon.Api.Reports

namespace SafeCameroon.Incidents

open Process Text

/-- The requests about reports, cases and alerts that a handler serves. An id stands in the path as
the text that the request spells it with. -/
inductive Request where
  | createAnonymousReport (content : String) (incidentType : Option IncidentType)
  | transcribeAudio (transcribed : Except ApiError String)
  | createAttachment (segment : String) (prepared : Except ApiError Unit)
  | startReportReview (segment : String)
  | createCase (reportId : ReportId) (incidentType : IncidentType)
  | linkReport (segment : String) (reportId : ReportId)
  | createCaseEvent (segment : String) (after : CaseStatus)
  | verifyCase (segment : String)
  | resolveCase (segment : String)
  | createAlert (segment : String) (request : Alerts.CreateAlertRequest)
  | cancelAlert (segment : String)

namespace Request

def path : Request → String
  | .createAnonymousReport _ _ => "/v1/reports"
  | .transcribeAudio _ => "/v1/reports/transcribe-audio"
  | .createAttachment segment _ => "/v1/reports/" ++ segment ++ "/attachments"
  | .startReportReview segment => "/v1/reports/" ++ segment ++ "/review"
  | .createCase _ _ => "/v1/cases"
  | .linkReport segment _ => "/v1/cases/" ++ segment ++ "/reports"
  | .createCaseEvent segment _ => "/v1/cases/" ++ segment ++ "/events"
  | .verifyCase segment => "/v1/cases/" ++ segment ++ "/verify"
  | .resolveCase segment => "/v1/cases/" ++ segment ++ "/resolve"
  | .createAlert segment _ => "/v1/cases/" ++ segment ++ "/alerts"
  | .cancelAlert segment => "/v1/alerts/" ++ segment ++ "/cancel"

end Request

/-- The routes that the layer keeps for platform admins. -/
def Request.adminOnly : Request → Bool
  | .startReportReview _ | .linkReport _ _ | .resolveCase _ => true
  | _ => false

theorem Request.platformOnly_path (request : Request) (restricted : request.adminOnly = true) :
    OrganizationAccess.platformOnly request.path .post = true := by
  have different := OrganizationAccess.route_ne
  cases request with
  | startReportReview segment =>
      simp (disch := decide +kernel) [OrganizationAccess.platformOnly, path, different]
  | linkReport segment reportId =>
      have elsewhere := OrganizationAccess.route_ne_start "/v1/cases/" segment "/reports"
      simp (disch := decide +kernel) [OrganizationAccess.platformOnly, path, different, elsewhere]
  | resolveCase segment =>
      simp (disch := decide +kernel) [OrganizationAccess.platformOnly, path, different]
  | _ => cases restricted

/-- How the deployment is configured. -/
structure Server where
  verify : String → Option VerifiedSession
  sha256 : String → Bytes
  unicode : UnicodeData

def invalidPath (requestId : Uuid) : ApiError :=
  { status := 400, code := "", message := "Cannot parse the path parameter.", requestId }

def pathId (requestId : Uuid) (segment : String) : Handler Uuid :=
  match Uuid.parseStr segment with
  | some id => return id
  | none => refuse (invalidPath requestId)

/-- What the handler of a request answers with plays no part in what the requests do to the tables. -/
def ignore {α : Type} (handler : Handler α) : Handler Unit := handler.bind fun _ => .done ()

namespace Server

def handle (server : Server) (fresh : Supply) (headers : List (String × Bytes)) (requestId : Uuid) :
    Request → Handler Unit
  | .createAnonymousReport content incidentType =>
      ignore (Reports.createAnonymousReport server.sha256 fresh headers content incidentType requestId)
  | .transcribeAudio transcribed => ignore (Reports.transcribeAudio headers transcribed requestId)
  | .createAttachment segment prepared => do
      let id ← pathId requestId segment
      ignore (Reports.createAttachment headers ⟨id⟩ prepared requestId)
  | .startReportReview segment => do
      let id ← pathId requestId segment
      ignore (Reports.startReportReview server.verify headers ⟨id⟩ requestId)
  | .createCase reportId incidentType =>
      ignore (Cases.createCase server.verify fresh headers reportId incidentType requestId)
  | .linkReport segment reportId => do
      let id ← pathId requestId segment
      ignore (Cases.linkReport server.verify fresh headers ⟨id⟩ reportId requestId)
  | .createCaseEvent segment after => do
      let id ← pathId requestId segment
      ignore (Cases.createCaseEvent server.verify fresh headers ⟨id⟩ after requestId)
  | .verifyCase segment => do
      let id ← pathId requestId segment
      ignore (Cases.verifyCase server.verify fresh headers ⟨id⟩ requestId)
  | .resolveCase segment => do
      let id ← pathId requestId segment
      ignore (Cases.resolveCase server.verify fresh headers ⟨id⟩ requestId)
  | .createAlert segment request => do
      let id ← pathId requestId segment
      ignore (Alerts.createAlert server.verify server.sha256 fresh headers ⟨id⟩ request requestId)
  | .cancelAlert segment => do
      let id ← pathId requestId segment
      ignore (Alerts.cancel server.unicode server.verify fresh headers ⟨id⟩ requestId)

def serve (server : Server) (fresh : Supply) (headers : List (String × Bytes)) (request : Request) :
    Handler Unit :=
  let requestId := requestIdFromHeaders (fresh 4) headers
  OrganizationAccess.restrictIncidentAccess server.verify request.path .post headers requestId
    (server.handle fresh headers requestId request)

end Server

/-- A request with its headers and the identifiers its handler draws, or an administrative change. -/
inductive Job where
  | request (fresh : Supply) (headers : List (String × Bytes)) (request : Request)
  | edit (edit : Edit)

def Server.run (server : Server) : Job → Handler Unit
  | .request fresh headers request => server.serve fresh headers request
  | .edit edit => Proc.perform (I := incidentInterface) (.edit edit) fun _ => .panicked "not saved"

abbrev Server.pool (server : Server) (jobs : Nat → Job) : Nat → Handler Unit :=
  fun pid => server.run (jobs pid)

/-- Requests meet in any order, any call may fail, and any request may be dropped between two calls. -/
abbrev freeRules : Rules incidentMachine := .free _

abbrev Pool := Config incidentMachine HandlerError Unit

abbrev Server.Reaches (server : Server) (jobs : Nat → Job) (rules : Rules incidentMachine)
    (init : Db) : Pool → Prop :=
  Reach rules (server.pool jobs) (initially (World.initial init))

end SafeCameroon.Incidents
