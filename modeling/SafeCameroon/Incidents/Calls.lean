import SafeCameroon.Library.Trace
import SafeCameroon.Postgres.Alerts
import SafeCameroon.Postgres.Cases
import SafeCameroon.Postgres.Organizations
import SafeCameroon.Postgres.Reports
import SafeCameroon.Postgres.Subscribers

namespace SafeCameroon.Incidents

open Table Process

/-- What administrative requests write to the tables that authorization reads. -/
inductive Edit where
  | createOrganization (id : OrganizationId)
  | setActive (id : OrganizationId) (isActive : Bool)
  | setConsumerId (id : OrganizationId) (consumerId : ConsumerId)
  | setTrustGrants (id : OrganizationId) (verifiedIncidentTypes : List IncidentType)
      (verifiedAlertVisibilities : List AlertVisibility)
  | addMembership (reviewerId : Uuid) (role : Role) (organizationId : Option OrganizationId)
  | createConsumer (row : ConsumerRow)
  | createSubscription (subscription : Subscription)
  | updateSubscription (auditEventId : Uuid) (subscription : Subscription) (actor : Actor)
      (requestId : Uuid)
  | deleteSubscription (id : SubscriptionId)

inductive RateLimitScope where
  | anonymousReportSubmission
  | attachmentUploadRequest
  | voiceTranscriptionRequest
  | reviewerLoginAttempt
  | citizenSubscriptionCreation
  deriving DecidableEq, Repr

/-- The calls between which requests about reports, cases and alerts can be interleaved. -/
inductive Call where
  | recordAndCheck (scope : RateLimitScope) (sourceKey : String)
  | isSessionRevoked (reviewerId : Uuid) (issuedAt : Nat)
  | findMembership (reviewerId : Uuid)
  | findOrganization (id : OrganizationId)
  | findSubscriptionsByConsumer (id : ConsumerId)
  | findReport (id : ReportId)
  | findCaseRow (id : CaseId)
  | findCaseReports (id : CaseId)
  | findAlert (id : AlertId)
  | createAttachment (reportId : ReportId)
  | submitAnonymous (submission : AnonymousReportSubmission)
  | markUnderReview (id : ReportId)
  | createCase (creation : CaseCreation)
  | linkReport (c : Case) (link : CaseReportLink)
  | applyReview (c : Case) (review : CaseReview)
  | createAlert (creation : AlertCreation)
  | cancelAlert (alert : Alert) (cancellation : AlertCancellation)
  | edit (edit : Edit)

@[reducible] def Call.Res : Call → Type
  | .recordAndCheck _ _ => Bool
  | .isSessionRevoked _ _ => Bool
  | .findMembership _ => Option Membership
  | .findOrganization _ => Option Organization
  | .findSubscriptionsByConsumer _ => List Subscription
  | .findReport _ => Option ReportRow
  | .findCaseRow _ => Option CaseRow
  | .findCaseReports _ => List ReportId
  | .findAlert _ => Option Alert
  | .createAttachment _ => Unit
  | .submitAnonymous _ => SubmissionResult
  | .markUnderReview _ => Bool
  | .createCase _ => CaseCreationOutcome
  | .linkReport _ _ => CaseLinkOutcome
  | .applyReview _ _ => CaseReviewOutcome
  | .createAlert _ => AlertCreationOutcome
  | .cancelAlert _ _ => AlertCancelOutcome
  | .edit _ => Unit

@[reducible] def incidentInterface : Interface := { Op := Call, Res := Call.Res, Err := Failure }

/-- What a call does not choose: the time, a fault of the database, the order of equal rows, whether
the session was revoked, and whether the source is within its rate limit. -/
structure Env where
  now : Timestamp
  fault : Bool
  tie : Uuid → Nat
  fieldTie : AlertFieldRow → Nat
  revoked : Bool
  withinLimit : Bool

def runEdit (env : Env) : Edit → Db → Except Failure (Ending Db Unit)
  | .createOrganization id, db => PostgresOrganizationRepository.create id db
  | .setActive id isActive, db => PostgresOrganizationRepository.setActive id isActive db
  | .setConsumerId id consumerId, db => PostgresOrganizationRepository.setConsumerId id consumerId db
  | .setTrustGrants id verifiedIncidentTypes verifiedAlertVisibilities, db =>
      PostgresOrganizationRepository.setTrustGrants id verifiedIncidentTypes
        verifiedAlertVisibilities db
  | .addMembership reviewerId role organizationId, db =>
      PostgresOrganizationRepository.addMembership reviewerId role organizationId db
  | .createConsumer row, db => PostgresConsumerRepository.create row db
  | .createSubscription subscription, db =>
      PostgresSubscriptionRepository.create env.now subscription db
  | .updateSubscription auditEventId subscription actor requestId, db => do
      match ← PostgresSubscriptionRepository.update auditEventId subscription actor requestId db with
      | .commit _ db => return .commit () db
      | .rollback _ => return .rollback ()
  | .deleteSubscription id, db => PostgresSubscriptionRepository.delete id db

/-- Runs one call on the tables. Rate limits and attachments have tables of their own, which nothing
here reads. -/
def runCall (env : Env) : (call : Call) → Db → Except Failure call.Res × Db
  | .recordAndCheck _ _ => query env.fault .database fun _ => .ok env.withinLimit
  | .createAttachment _ => query env.fault .database fun _ => .ok ()
  | .isSessionRevoked _ _ => query env.fault .database fun _ => .ok env.revoked
  | .findMembership reviewerId => query env.fault .database
      (PostgresOrganizationRepository.findMembership reviewerId)
  | .findOrganization id => query env.fault .database fun db =>
      .ok (PostgresOrganizationRepository.findById id db)
  | .findSubscriptionsByConsumer id => query env.fault .database fun db =>
      .ok (PostgresSubscriptionRepository.findByConsumer env.tie id db)
  | .findReport id => query env.fault .database fun db => .ok (PostgresReportRepository.findById id db)
  | .findCaseRow id => query env.fault .database fun db => .ok (PostgresCaseRepository.findRow id db)
  | .findCaseReports id => query env.fault .database fun db =>
      .ok (PostgresCaseRepository.findReports env.tie id db)
  | .findAlert id => query env.fault .database (PostgresAlertRepository.findById env.fieldTie id)
  | .submitAnonymous submission => transaction env.fault .database
      (PostgresReportRepository.submitAnonymous env.now submission)
  | .markUnderReview id => transaction env.fault .database
      (PostgresReportRepository.markUnderReview id)
  | .createCase creation => transaction env.fault .database
      (PostgresCaseRepository.create env.now creation)
  | .linkReport c link => transaction env.fault .database
      (PostgresCaseRepository.linkReport env.now c link)
  | .applyReview c review => transaction env.fault .database
      (PostgresCaseRepository.applyReview env.now c review)
  | .createAlert creation => transaction env.fault .database
      (PostgresAlertRepository.create env.now creation)
  | .cancelAlert alert cancellation => transaction env.fault .database
      (PostgresAlertRepository.cancel env.now alert cancellation)
  | .edit edit => transaction env.fault .database (runEdit env edit)

/-- One finished call: who made it, what it answered, and the tables it found. -/
structure Entry where
  pid : Nat
  call : Call
  answer : Except Failure call.Res
  before : Db

/-- The tables, and every call so far with the latest first. -/
structure World where
  db : Db
  history : List Entry

namespace World

def execute (pid : Nat) (call : Call) (env : Env) (world : World) :
    Except Failure call.Res × World :=
  let (answer, db) := runCall env call world.db
  (answer, { db, history := ⟨pid, call, answer, world.db⟩ :: world.history })

@[simp] theorem execute_db (pid : Nat) (call : Call) (env : Env) (world : World) :
    (world.execute pid call env).2.db = (runCall env call world.db).2 := rfl

@[simp] theorem execute_answer (pid : Nat) (call : Call) (env : Env) (world : World) :
    (world.execute pid call env).1 = (runCall env call world.db).1 := rfl

@[simp] theorem execute_history (pid : Nat) (call : Call) (env : Env) (world : World) :
    (world.execute pid call env).2.history =
      ⟨pid, call, (runCall env call world.db).1, world.db⟩ :: world.history := rfl

def initial (db : Db) : World := { db, history := [] }

def trace (pid : Nat) (world : World) : List (Exchange incidentInterface) :=
  (world.history.filter fun entry => entry.pid = pid).map fun entry => ⟨entry.call, entry.answer⟩

end World

@[reducible] def incidentMachine : Machine incidentInterface where
  State := World
  Env := Env
  execute := World.execute

def recorded : Process.Recorded incidentMachine where
  trace := World.trace
  own := fun pid call env world => by simp [World.trace]
  other := fun pid other call env world differs => by simp [World.trace, Ne.symm differs]

theorem World.mem_trace (pid : Nat) (world : World) (call : Call)
    (answer : Except Failure call.Res) (h : ⟨call, answer⟩ ∈ world.trace pid) :
    ∃ before, (⟨pid, call, answer, before⟩ : Entry) ∈ world.history := by
  obtain ⟨⟨other, made, result, before⟩, member, same⟩ := List.mem_map.mp h
  obtain ⟨inHistory, owned⟩ := List.mem_filter.mp member
  obtain rfl : other = pid := by simpa using owned
  obtain ⟨rfl, equal⟩ := Exchange.mk.inj same
  obtain rfl := eq_of_heq equal
  exact ⟨before, inHistory⟩

end SafeCameroon.Incidents
