import SafeCameroon.Aggregate.CaseSourcing
import SafeCameroon.Incidents.Effects
import SafeCameroon.Incidents.Honest

namespace SafeCameroon.Incidents

open Table Process

def World.knows (world : World) : Known := fun call answer =>
  ∃ pid before, (⟨pid, call, answer, before⟩ : Entry) ∈ world.history

theorem World.knows_execute (pid : Nat) (call : Call) (env : Env) (world : World) (other : Call)
    (answer : Except Failure other.Res) (known : (world.execute pid call env).2.knows other answer) :
    world.knows other answer ∨
      (⟨other, answer⟩ : Exchange incidentInterface) = ⟨call, (runCall env call world.db).1⟩ := by
  obtain ⟨caller, before, member⟩ := known
  rw [World.execute_history, List.mem_cons] at member
  rcases member with new | old
  · obtain ⟨_, rfl, same, _⟩ := Entry.mk.inj new
    exact Or.inr (by rw [eq_of_heq same])
  · exact Or.inl ⟨caller, before, old⟩

theorem World.knows_trace (pid : Nat) (world : World) (call : Call)
    (answer : Except Failure call.Res) (known : knownFrom (world.trace pid) call answer) :
    world.knows call answer := by
  obtain ⟨before, member⟩ := World.mem_trace pid world call answer known
  exact ⟨pid, before, member⟩

def CaseProper (known : Known) : Call → Prop
  | .createCase creation => ∃ reportId,
      Case.create creation.case.id creation.event.id creation.case.incidentType reportId =
        (creation.case, creation.event)
  | .linkReport c link => ∃ caseId before, CaseRead known caseId before ∧
      before.linkReport link.event.id link.reportId = .ok (c, link.event)
  | .applyReview c review => ∃ caseId before, CaseRead known caseId before ∧
      before.transitionTo review.event.id c.status = .ok (c, review.event)
  | _ => True

/-- Anything may happen in between, and anyone may stop. -/
def caseRules : Rules incidentMachine where
  mayCall := fun _ call _ world => CaseProper world.knows call
  mayHalt := fun _ _ _ => True

/-- The tables of the cases agree, and whoever read a case is at most behind. -/
structure CaseRun (world : World) : Prop where
  ledger : CaseLedger world.db
  stale : ∀ caseId row, world.knows (.findCaseRow caseId) (.ok (some row)) →
    row.id = caseId ∧ CaseStale world.db row

/-- What a call does to the cases, for a caller whose reads are at most behind. -/
structure CaseKept (db after : Db) : Prop where
  ledger : CaseLedger after
  stale : ∀ row, CaseStale db row → CaseStale after row
  evolve : CasesEvolve db after

theorem CaseKept.untouched {db after : Db} (ledger : CaseLedger db)
    (cases : after.cases = db.cases) (links : after.caseReports = db.caseReports)
    (events : after.caseEvents = db.caseEvents)
    (messages : ∃ added, after.outboxEvents = db.outboxEvents ++ added ∧
      ∀ message ∈ added, message.aggregateType ≠ "CASE") : CaseKept db after := by
  have same : after.cases = db.cases ++ [] := by rw [cases, List.append_nil]
  exact ⟨ledger.frame cases links events messages, fun _ stale => stale.appended [] same,
    .appended [] same⟩

theorem CaseRun.link {world : World} (run : CaseRun world) {c : Case} {link : CaseReportLink}
    (proper : CaseProper world.knows (.linkReport c link)) : ∃ row, CaseStale world.db row ∧
      CaseMoves row c none (some link.reportId) link.event (caseReportLinkedEventPayload c.id link) := by
  obtain ⟨caseId, before, ⟨row, reportIds, found, _, built⟩, domain⟩ := proper
  exact ⟨row, (run.stale caseId row found).2, caseMoves_link row reportIds before c link built domain⟩

theorem CaseRun.review {world : World} (run : CaseRun world) {c : Case} {review : CaseReview}
    (proper : CaseProper world.knows (.applyReview c review)) : ∃ row, CaseStale world.db row ∧
      CaseMoves row c (some c.status) none review.event (caseStatusChangedEventPayload c review) := by
  obtain ⟨caseId, before, ⟨row, reportIds, found, _, built⟩, domain⟩ := proper
  exact ⟨row, (run.stale caseId row found).2,
    caseMoves_review row reportIds before c review built domain⟩

theorem CaseRun.kept {world : World} (run : CaseRun world) (call : Call)
    (proper : CaseProper world.knows call) (env : Env) :
    CaseKept world.db (runCall env call world.db).2 := by
  have wrote := runCall_wrote env call world.db
  generalize (runCall env call world.db).1 = answer at wrote
  generalize (runCall env call world.db).2 = after at wrote
  have ledger := run.ledger
  cases wrote with
  | idle => exact .untouched ledger rfl rfl rfl ⟨[], by simp, by simp⟩
  | submitted effect =>
      refine .untouched ledger ?_ ?_ ?_ ⟨_, effect.outbox, by simp [outboxRow]⟩
      · rw [effect.elsewhere]
      · rw [effect.elsewhere]
      · rw [effect.elsewhere]
  | marked effect =>
      simp only [PostgresReportRepository.markUnderReview, Except.ok.injEq,
        Ending.commit.injEq] at effect
      obtain ⟨_, rfl⟩ := effect
      exact .untouched ledger rfl rfl rfl ⟨[], by simp, by simp⟩
  | caseCreated effect =>
      obtain ⟨reportId, domain⟩ := proper
      have created := (Prod.mk.inj domain).1
      have first := effect.first
      rw [← created] at first
      obtain rfl := Option.some.inj first
      exact ⟨ledger.created effect domain, fun _ stale => stale.appended _ effect.cases,
        .appended _ effect.cases⟩
  | linked effect =>
      obtain ⟨row, stale, moves⟩ := run.link proper
      exact ⟨ledger.advanced stale moves effect,
        fun _ older => older.advanced ledger.distinct effect,
        .advanced ledger.distinct stale moves effect⟩
  | reviewed effect =>
      obtain ⟨row, stale, moves⟩ := run.review proper
      exact ⟨ledger.advanced stale moves effect,
        fun _ older => older.advanced ledger.distinct effect,
        .advanced ledger.distinct stale moves effect⟩
  | alertCreated effect =>
      refine .untouched ledger ?_ ?_ ?_ ⟨_, effect.outbox, by simp [outboxRow]⟩
      · rw [effect.elsewhere]
      · rw [effect.elsewhere]
      · rw [effect.elsewhere]
  | alertCancelled effect =>
      refine .untouched ledger ?_ ?_ ?_ ⟨_, effect.outbox, by simp [outboxRow]⟩
      · rw [effect.elsewhere]
      · rw [effect.elsewhere]
      · rw [effect.elsewhere]
  | edited _ same =>
      refine .untouched ledger ?_ ?_ ?_ ⟨[], ?_, by simp⟩
      · rw [same]
      · rw [same]
      · rw [same]
      · rw [same, List.append_nil]

theorem findCaseRow_current (env : Env) (caseId : CaseId) (db : Db) (row : CaseRow)
    (answered : (runCall env (.findCaseRow caseId) db).1 = .ok (some row)) :
    row.id = caseId ∧ CaseStale db row := by
  have found := query_ok _ _ _ _ _ answered
  simp only [Except.ok.injEq] at found
  obtain ⟨member, same⟩ := lookup_some _ _ _ _ found
  exact ⟨same, row, member, rfl, rfl, Optimistic.behind_self (row.record [])⟩

theorem CaseRun.execute {world : World} (run : CaseRun world) (pid : Nat) (call : Call) (env : Env)
    (proper : CaseProper world.knows call) : CaseRun (world.execute pid call env).2 := by
  have kept := run.kept call proper env
  refine ⟨kept.ledger, ?_⟩
  intro caseId row known
  rcases World.knows_execute pid call env world _ _ known with old | new
  · have earlier := run.stale caseId row old
    exact ⟨earlier.1, kept.stale row earlier.2⟩
  · obtain ⟨rfl, answered⟩ := Exchange.mk.inj new
    have current := findCaseRow_current env caseId world.db row (eq_of_heq answered).symm
    exact ⟨current.1, kept.stale row current.2⟩

theorem CaseRun.initial {init : Db} (ledger : CaseLedger init) : CaseRun (World.initial init) where
  ledger := ledger
  stale := fun _ _ ⟨_, _, member⟩ => absurd member List.not_mem_nil

section Runs

variable {ε α : Type} (program : Nat → Proc incidentInterface ε α)

theorem caseRun_reach (init : Db) (ledger : CaseLedger init) (config : Config incidentMachine ε α)
    (reached : Reach caseRules program (initially (World.initial init)) config) :
    CaseRun config.state :=
  reach_holds caseRules program _ CaseRun (.initial ledger)
    (fun pid call env _ proper run => run.execute pid call env proper) config reached

/-- From any moment of a run on, every case stays and its status moves along allowed edges. -/
theorem casesEvolve_reach (init : Db) (ledger : CaseLedger init)
    (config later : Config incidentMachine ε α)
    (reached : Reach caseRules program (initially (World.initial init)) config)
    (onward : Reach caseRules program config later) : CasesEvolve config.state.db later.state.db := by
  have both := reach_holds caseRules program config
    (fun world => CaseRun world ∧ CasesEvolve config.state.db world.db)
    ⟨caseRun_reach program init ledger config reached, .appended [] (List.append_nil _).symm⟩
    (fun pid call env world proper known =>
      ⟨known.1.execute pid call env proper, known.2.trans (known.1.kept call proper env).evolve⟩)
    later onward
  exact both.2

end Runs

def Call.refused : (call : Call) → Except Failure call.Res → Bool
  | .createCase _, .ok .reportAlreadyLinked => true
  | .linkReport _ _, .ok .reportAlreadyLinked => true
  | .linkReport _ _, .ok .conflict => true
  | .applyReview _ _, .ok .conflict => true
  | _, .error _ => true
  | _, .ok _ => false

theorem Call.refused_idle (call : Call) (answer : Except Failure call.Res)
    (refused : call.refused answer = true) : call.effective answer = false := by
  cases answer with
  | error error => cases call <;> rfl
  | ok value =>
      cases call with
      | createCase creation => cases value <;> simp_all [Call.refused, Call.effective]
      | linkReport c link => cases value <;> simp_all [Call.refused, Call.effective]
      | applyReview c review => cases value <;> simp_all [Call.refused, Call.effective]
      | _ => simp [Call.refused] at refused

/-- Every case is what its events say, and nothing belongs to two cases or to none. -/
structure CasesSourced (db : Db) : Prop where
  each : ∀ row ∈ db.cases, CaseSourced db row
  distinct : (db.cases.map (·.id)).Nodup
  linked_once : (db.caseReports.map (·.reportId)).Nodup
  links_known : ∀ link ∈ db.caseReports, link.caseId ∈ db.cases.map (·.id)
  events_known : ∀ event ∈ db.caseEvents, event.caseId ∈ db.cases.map (·.id)

theorem casesSourced_of_ledger {db : Db} (ledger : CaseLedger db) : CasesSourced db where
  each := by
    intro row member
    obtain ⟨first, log, told⟩ := ledger.tells row member
    exact told.sourced
  distinct := ledger.distinct
  linked_once := ledger.once
  links_known := ledger.reports_known
  events_known := ledger.events_known

/-- Whatever meets whatever, and however stale what the writers had read: at every moment each case
is what its events say, from then on its status moves along allowed edges, and a call that is refused
or fails changes no table. -/
theorem cases_are_event_sourced {ε α : Type} (program : Nat → Proc incidentInterface ε α)
    (init : Db) (cases : init.cases = []) (links : init.caseReports = [])
    (events : init.caseEvents = [])
    (messages : ∀ message ∈ init.outboxEvents, message.aggregateType ≠ "CASE")
    (config later : Config incidentMachine ε α)
    (reached : Reach caseRules program (initially (World.initial init)) config)
    (onward : Reach caseRules program config later) :
    CasesSourced config.state.db ∧ CasesEvolve config.state.db later.state.db ∧
      ∀ env call, call.refused (runCall env call config.state.db).1 = true →
        (runCall env call config.state.db).2 = config.state.db := by
  have ledger := caseLedger_empty init cases links events messages
  have run := caseRun_reach program init ledger config reached
  refine ⟨casesSourced_of_ledger run.ledger,
    casesEvolve_reach program init ledger config later reached onward, ?_⟩
  intro env call refused
  exact runCall_idle env call _ (Call.refused_idle call _ refused)

section Handlers

variable (server : Server)

theorem caseProper_of_minds (job : Job) (pid : Nat) (world : World) (call : Call)
    (minded : server.minds job (world.trace pid) call) : CaseProper world.knows call := by
  have keeps := World.knows_trace pid world
  cases job with
  | edit edit =>
      obtain rfl : call = .edit edit := minded
      trivial
  | request fresh headers request =>
      cases call with
      | createCase creation =>
          obtain ⟨Supply.of, incidentType, reportId, actor, requestId, rfl⟩ := minded
          exact ⟨reportId, rfl⟩
      | linkReport c link =>
          obtain ⟨caseId, before, read, domain⟩ := minded
          exact ⟨caseId, before, read.mono keeps, domain⟩
      | applyReview c review =>
          obtain ⟨caseId, before, read, domain, _⟩ := minded
          exact ⟨caseId, before, read.mono keeps, domain⟩
      | _ => trivial

/-- A rule for the runs of the requests, with what each of them knows enough for. -/
abbrev Server.mindful (jobs : Nat → Job) (rules : Rules incidentMachine) : Rules incidentMachine :=
  rules.after recorded fun pid => server.minds (jobs pid)

theorem Server.reaches_cases (jobs : Nat → Job) (rules : Rules incidentMachine) (init : Db)
    (config : Pool) (reached : server.Reaches jobs rules init config) :
    Reach caseRules (server.pool jobs) (initially (World.initial init)) config := by
  apply reach_strengthen (server.mindful jobs rules) caseRules _ _ ?_ config
    (server.reaches_minded jobs rules init config reached)
  intro middle label _ legal
  cases label with
  | start pid => trivial
  | halt pid => exact fun _ _ _ => trivial
  | call pid env =>
      intro call next slot
      exact caseProper_of_minds server (jobs pid) pid middle.state call (legal call next slot).2

end Handlers

namespace Scenario

/-- The reviewer 5 is a platform admin, and the reviewer 6 belongs to an organization. -/
def server : Server :=
  { verify := fun token =>
      if token = "admin" then some ⟨5, 0⟩ else if token = "member" then some ⟨6, 0⟩ else none
    sha256 := fun _ => []
    unicode := .ascii }

def signedIn (token : String) : List (String × Bytes) :=
  [("authorization", Text.asciiBytes ("Bearer " ++ token))]

def env : Env :=
  { now := 0, fault := false, tie := fun _ => 0, fieldTie := fun _ => 0, revoked := false
    withinLimit := true }

def reportRow (id : ReportId) : ReportRow :=
  { id, sourceChannel := .web, rawContent := "A child is missing.", status := .received
    followUpTokenHash := [], idempotencyKeyHash := none, reportedIncidentType := none }

def organizationId : OrganizationId := ⟨7⟩

/-- Two reports, a platform admin, and a member of an organization that is trusted with nothing. -/
def store : Db :=
  { Db.empty with
    reports := [reportRow ⟨1⟩, { reportRow ⟨2⟩ with followUpTokenHash := [1] }]
    organizations := [{ id := organizationId, verifiedIncidentTypes := []
                        verifiedAlertVisibilities := [], consumerId := none, isActive := true }]
    memberships := [{ reviewerId := 5, role := .platformAdmin, organizationId := none },
                    { reviewerId := 6, role := .member, organizationId := some organizationId }] }

def runs : Nat → Nat → List (Label Env) := stretch fun _ => env

def caseSegment : String := "00000000-0000-0000-0000-000000000000"

def raceJobs : Nat → Job
  | 0 => .request (Supply.of 0) [] (.createCase ⟨1⟩ .missingChild)
  | 1 => .request (Supply.of 1) (signedIn "admin") (.linkReport caseSegment ⟨2⟩)
  | _ => .request (Supply.of 2) [] (.createCaseEvent caseSegment .underReview)

/-- The review read the case before the link was committed. -/
def race : List (Label Env) :=
  runs 0 1 ++ runs 2 2 ++ runs 1 6 ++ [.call 2 env]

/-- The link of the race is committed and the review is refused. -/
theorem cases_are_event_sourced_race : ∃ config : Pool,
    config.state.db.cases.map (fun row => (row.status, row.aggregateVersion)) = [(.reported, 2)] ∧
      CasesSourced config.state.db := by
  have run : (play (server.pool raceJobs) (fun _ _ => true) race
      (initially (World.initial store) : Pool)).any (fun config =>
        decide (config.state.db.cases.map (fun row => (row.status, row.aggregateVersion)) =
          [(.reported, 2)])) = true := by decide +kernel
  obtain ⟨config, arrived, rows⟩ := play_freely _ _ _ _ run
  have cases := server.reaches_cases raceJobs freeRules store config arrived
  exact ⟨config, of_decide_eq_true rows, (cases_are_event_sourced _ store rfl rfl rfl (by simp [store,
    Db.empty]) config config cases .start).1⟩

end Scenario

end SafeCameroon.Incidents
