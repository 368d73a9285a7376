import SafeCameroon.Api.Alerts

namespace SafeCameroon.Incidents.Reports

open Process Text

def rateLimitCheckFailed (requestId : Uuid) : ApiError :=
  { status := 500, code := "RATE_LIMIT_CHECK_FAILED"
    message := "Could not verify the request rate. Please try again.", requestId }

def rateLimitExceeded (requestId : Uuid) : ApiError :=
  { status := 429, code := "RATE_LIMIT_EXCEEDED"
    message := "Too many requests. Please try again later.", requestId }

def persistenceFailed (requestId : Uuid) : ApiError :=
  { status := 500, code := "REPORT_PERSISTENCE_FAILED"
    message := "The report could not be saved. Please try again.", requestId }

def updateFailed (requestId : Uuid) : ApiError :=
  { status := 500, code := "REPORT_PERSISTENCE_FAILED"
    message := "The report could not be updated. Please try again.", requestId }

def queryFailed (requestId : Uuid) : ApiError :=
  { status := 500, code := "REPORT_QUERY_FAILED"
    message := "The report could not be read. Please try again.", requestId }

def idempotencyKeyReused (requestId : Uuid) : ApiError :=
  { status := 409, code := "IDEMPOTENCY_KEY_REUSED"
    message := "This Idempotency-Key was already used for a report.", requestId }

def reviewNotAuthorized (requestId : Uuid) : ApiError :=
  { status := 403, code := "NOT_AUTHORIZED"
    message := "Only an identified reviewer may start reviewing a report.", requestId }

def reportNotReceived (requestId : Uuid) : ApiError :=
  { status := 409, code := "REPORT_NOT_RECEIVED"
    message := "This report is no longer awaiting review.", requestId }

def reportNotFound (requestId : Uuid) : ApiError :=
  { status := 404, code := "REPORT_NOT_FOUND"
    message := "No report exists with the given id.", requestId }

def attachmentPersistenceFailed (requestId : Uuid) : ApiError :=
  { status := 500, code := "ATTACHMENT_PERSISTENCE_FAILED"
    message := "The attachment could not be saved. Please try again.", requestId }

def validationError (requestId : Uuid) : ReportValidationError → ApiError
  | .emptyContent =>
      { status := 400, code := "INVALID_REPORT_CONTENT"
        message := "Report content cannot be blank.", requestId }
  | .contentTooLong =>
      { status := 400, code := "INVALID_REPORT_CONTENT"
        message := "Report content is too long.", requestId }

/-- The last hop of the forwarded addresses, which the trusted edge wrote. -/
def sourceKeyFromHeaders (headers : List (String × Bytes)) : String :=
  let key := ((header "x-forwarded-for" headers).bind headerText).map fun value =>
    trim ((value.splitOn ",").getLast?.getD "")
  (key.filter (· ≠ "")).getD "unknown"

def enforceRateLimit (scope : RateLimitScope) (headers : List (String × Bytes)) (requestId : Uuid) :
    Handler Unit := do
  let withinLimit ← orFail (rateLimitCheckFailed requestId)
    (.recordAndCheck scope (sourceKeyFromHeaders headers))
  if withinLimit then return () else refuse (rateLimitExceeded requestId)

structure CreateReportResponse where
  reportId : Uuid
  referenceCode : String
  deriving DecidableEq, Repr

def createAnonymousReport (sha256 : String → Bytes) (fresh : Supply)
    (headers : List (String × Bytes)) (content : String) (incidentType : Option IncidentType)
    (requestId : Uuid) : Handler CreateReportResponse := do
  enforceRateLimit .anonymousReportSubmission headers requestId
  match idempotencyKeyFromHeaders headers requestId with
  | .error error => refuse error
  | .ok idempotencyKey =>
      match prepareAnonymousReport sha256 fresh content requestId idempotencyKey incidentType with
      | .error error => refuse (validationError requestId error)
      | .ok submission =>
          match ← orFail (persistenceFailed requestId) (.submitAnonymous submission) with
          | .duplicate _ => refuse (idempotencyKeyReused requestId)
          | .created => return { reportId := submission.report.id.uuid
                                 referenceCode := submission.referenceCode }

def startReportReview (verify : String → Option VerifiedSession) (headers : List (String × Bytes))
    (reportId : ReportId) (requestId : Uuid) : Handler ReportRow := do
  let actor ← Reviewer.actorFromHeaders verify headers requestId
  match authorize actor .reviewReport with
  | .error _ => refuse (reviewNotAuthorized requestId)
  | .ok () =>
      let changed ← orFail (updateFailed requestId) (.markUnderReview reportId)
      if changed then
        match ← orFail (queryFailed requestId) (.findReport reportId) with
        | some report => return report
        | none => .fail (.panicked "the report was just updated above")
      else refuse (reportNotReceived requestId)

/-- `prepared` is what checking the metadata and asking the storage for an upload address gives. -/
def createAttachment (headers : List (String × Bytes)) (reportId : ReportId)
    (prepared : Except ApiError Unit) (requestId : Uuid) : Handler Unit := do
  enforceRateLimit .attachmentUploadRequest headers requestId
  match ← orFail (attachmentPersistenceFailed requestId) (.findReport reportId) with
  | none => refuse (reportNotFound requestId)
  | some _ =>
      match prepared with
      | .error error => refuse error
      | .ok () => orFail (attachmentPersistenceFailed requestId) (.createAttachment reportId)

def transcribeAudio (headers : List (String × Bytes)) (transcribed : Except ApiError String)
    (requestId : Uuid) : Handler String := do
  enforceRateLimit .voiceTranscriptionRequest headers requestId
  match transcribed with
  | .error error => refuse error
  | .ok transcript => return transcript

end SafeCameroon.Incidents.Reports
