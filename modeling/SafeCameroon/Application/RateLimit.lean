import SafeCameroon.Incidents.Calls

namespace SafeCameroon.Incidents.RateLimitScope

def asDatabaseValue : RateLimitScope → String
  | .anonymousReportSubmission => "ANONYMOUS_REPORT_SUBMISSION"
  | .reviewerLoginAttempt => "REVIEWER_LOGIN_ATTEMPT"
  | .citizenSubscriptionCreation => "CITIZEN_SUBSCRIPTION_CREATION"
  | .attachmentUploadRequest => "ATTACHMENT_UPLOAD_REQUEST"
  | .voiceTranscriptionRequest => "VOICE_TRANSCRIPTION_REQUEST"

theorem asDatabaseValue_injective {one other : RateLimitScope}
    (same : one.asDatabaseValue = other.asDatabaseValue) : one = other := by
  revert same
  cases one <;> cases other <;> decide

def limit : RateLimitScope → Nat
  | .anonymousReportSubmission => 10
  | .reviewerLoginAttempt => 5
  | .citizenSubscriptionCreation => 10
  | .attachmentUploadRequest => 30
  | .voiceTranscriptionRequest => 5

def window : RateLimitScope → Nat
  | .anonymousReportSubmission => 60 * 60
  | .reviewerLoginAttempt => 15 * 60
  | .citizenSubscriptionCreation => 60 * 60
  | .attachmentUploadRequest => 60 * 60
  | .voiceTranscriptionRequest => 60 * 60

theorem window_pos (scope : RateLimitScope) : 0 < scope.window := by
  cases scope <;> decide

theorem window_le (scope : RateLimitScope) : scope.window ≤ 3600 := by
  cases scope <;> decide

end SafeCameroon.Incidents.RateLimitScope
