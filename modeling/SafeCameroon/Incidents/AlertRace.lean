import SafeCameroon.Incidents.AlertRuns

namespace SafeCameroon.Incidents

open Table Process Text

def Entry.exchange (entry : Entry) : Exchange incidentInterface := ⟨entry.call, entry.answer⟩

def Entry.Cancels (caseId : CaseId) (entry : Entry) : Prop :=
  ∃ c review, entry.exchange = ⟨.applyReview c review, .ok .applied⟩ ∧ c.id = caseId ∧
    c.status = .cancelled

def Entry.Reads (caseId : CaseId) (row : CaseRow) (entry : Entry) : Prop :=
  entry.exchange = ⟨.findCaseRow caseId, .ok (some row)⟩

/-- The case was cancelled after the process read its row. -/
def CancelledSince (history : List Entry) (pid : Nat) (caseId : CaseId) : Prop :=
  ∃ later entry earlier row, history = later ++ entry :: earlier ∧ entry.pid = pid ∧
    entry.Reads caseId row ∧ ∃ other ∈ later, other.Cancels caseId

/-- No alert is inserted after its case was cancelled behind the back of its request. -/
def uncancelledRules : Rules incidentMachine where
  mayCall := fun pid call _ world => ∀ creation, call = .createAlert creation →
    ¬CancelledSince world.history pid creation.alert.caseId
  mayHalt := fun _ _ _ => True

theorem CaseRun.moves {world : World} (run : CaseRun world) (call : Call)
    (proper : CaseProper world.knows call) (env : Env) (row : CaseRow)
    (member : row ∈ world.db.cases) :
    ∃ later ∈ (runCall env call world.db).2.cases, later.id = row.id ∧
      (later.status = row.status ∨ (isAllowedTransition row.status later.status = true ∧
        ∃ c review, (⟨call, (runCall env call world.db).1⟩ : Exchange incidentInterface) =
          ⟨.applyReview c review, .ok .applied⟩ ∧ c.id = row.id ∧ c.status = later.status)) := by
  have wrote := runCall_wrote env call world.db
  generalize (runCall env call world.db).1 = answer at wrote
  generalize (runCall env call world.db).2 = after at wrote
  have untouched : ∀ added, after.cases = world.db.cases ++ added → ∃ later ∈ after.cases,
      later.id = row.id ∧ (later.status = row.status ∨
        (isAllowedTransition row.status later.status = true ∧ ∃ c review,
          (⟨call, answer⟩ : Exchange incidentInterface) = ⟨.applyReview c review, .ok .applied⟩ ∧
            c.id = row.id ∧ c.status = later.status)) := by
    intro added cases
    exact ⟨row, by rw [cases]; exact List.mem_append_left _ member, rfl, Or.inl rfl⟩
  have same : after.cases = world.db.cases → after.cases = world.db.cases ++ [] := by simp
  cases wrote with
  | idle => exact untouched [] (same rfl)
  | submitted effect => exact untouched [] (same (by rw [effect.elsewhere]))
  | marked effect =>
      simp only [PostgresReportRepository.markUnderReview, Except.ok.injEq,
        Ending.commit.injEq] at effect
      obtain ⟨_, rfl⟩ := effect
      exact untouched [] (same rfl)
  | caseCreated effect => exact untouched _ effect.cases
  | alertCreated effect => exact untouched [] (same (by rw [effect.elsewhere]))
  | alertCancelled effect => exact untouched [] (same (by rw [effect.elsewhere]))
  | edited _ kept => exact untouched [] (same (by rw [kept]))
  | linked effect =>
      have rows := advanced_rows effect run.ledger.distinct
      rename_i c link
      by_cases differs : row.id = c.id
      · obtain ⟨current, inTable, equal, older⟩ := effect.matched
        obtain rfl := eq_of_key (·.id) _ run.ledger.distinct current row inTable member
          (equal.trans differs.symm)
        exact ⟨_, (rows _).mpr (Or.inr ⟨current, inTable, equal, older, rfl⟩), rfl, Or.inl rfl⟩
      · exact ⟨row, (rows row).mpr (Or.inl ⟨member, differs⟩), rfl, Or.inl rfl⟩
  | reviewed effect =>
      have rows := advanced_rows effect run.ledger.distinct
      obtain ⟨read, stale, moves⟩ := run.review proper
      rename_i c review
      by_cases differs : row.id = c.id
      · obtain ⟨current, inTable, equal, older⟩ := effect.matched
        obtain rfl := eq_of_key (·.id) _ run.ledger.distinct current row inTable member
          (equal.trans differs.symm)
        have atCurrent := stale.current run.ledger.distinct current inTable (equal.trans moves.id)
        have status : read.status = current.status := by
          have written := moves.version
          exact atCurrent.2.2 (by simp only [CaseRow.record]; omega)
        refine ⟨_, (rows _).mpr (Or.inr ⟨current, inTable, equal, older, rfl⟩), rfl, ?_⟩
        have step := moves.step
        rw [status] at step
        rcases CaseLife.step_moves _ _ _ step with still | allowed
        · exact Or.inl still
        · exact Or.inr ⟨allowed, c, review, rfl, equal.symm, rfl⟩
      · exact ⟨row, (rows row).mpr (Or.inl ⟨member, differs⟩), rfl, Or.inl rfl⟩

theorem verified_or_cancelled (before after : CaseStatus)
    (allowed : isAllowedTransition before after = true)
    (verified : isVerifiedOrLater before = true) :
    isVerifiedOrLater after = true ∨ after = .cancelled := by
  cases before <;> cases after <;> simp_all [isAllowedTransition, isVerifiedOrLater]

/-- Whoever read a verified case is right about it until the case is cancelled. -/
def ReadsFollowed (world : World) : Prop :=
  ∀ later entry earlier caseId row, world.history = later ++ entry :: earlier →
    entry.Reads caseId row → isVerifiedOrLater row.status = true →
      (∃ stored ∈ world.db.cases, stored.id = caseId ∧ isVerifiedOrLater stored.status = true) ∨
        ∃ other ∈ later, other.Cancels caseId

def AlertsFromVerified (world : World) : Prop :=
  ∀ entry ∈ world.history, ∀ creation, entry.exchange = ⟨.createAlert creation, .ok .created⟩ →
    ∃ row ∈ entry.before.cases, row.id = creation.alert.caseId ∧
      isVerifiedOrLater row.status = true

section Step

variable {world : World}

theorem ReadsFollowed.execute (followed : ReadsFollowed world) (run : CaseRun world) (pid : Nat)
    (call : Call) (proper : CaseProper world.knows call) (env : Env) :
    ReadsFollowed (world.execute pid call env).2 := by
  intro later entry earlier caseId row history reads verified
  rw [World.execute_history] at history
  cases later with
  | nil =>
      obtain ⟨rfl, _⟩ := List.cons.inj history
      obtain ⟨rfl, answered⟩ := Exchange.mk.inj reads
      have found := query_ok _ _ _ _ _ (eq_of_heq answered)
      simp only [Except.ok.injEq] at found
      obtain ⟨member, same⟩ := lookup_some _ _ _ _ found
      exact Or.inl ⟨row, member, same, verified⟩
  | cons new later =>
      obtain ⟨rfl, older⟩ := List.cons.inj history
      rcases followed later entry earlier caseId row older reads verified with
        ⟨stored, member, same, still⟩ | ⟨other, between, cancels⟩
      · obtain ⟨after, inAfter, id, change⟩ := run.moves call proper env stored member
        rcases change with unchanged | ⟨allowed, c, review, made, subject, status⟩
        · exact Or.inl ⟨after, inAfter, id.trans same, unchanged ▸ still⟩
        · rcases verified_or_cancelled _ _ allowed still with later | cancelled
          · exact Or.inl ⟨after, inAfter, id.trans same, later⟩
          · refine Or.inr ⟨_, List.mem_cons_self, c, review, made, subject.trans same, ?_⟩
            exact status.trans cancelled
      · exact Or.inr ⟨other, List.mem_cons_of_mem _ between, cancels⟩

theorem AlertsFromVerified.execute {server : Server} {jobs : Nat → Job}
    (verified : AlertsFromVerified world) (followed : ReadsFollowed world) (run : CaseRun world)
    (pid : Nat) (call : Call) (env : Env)
    (minded : server.minds (jobs pid) (world.trace pid) call)
    (uncancelled : ∀ creation, call = .createAlert creation →
      ¬CancelledSince world.history pid creation.alert.caseId) :
    AlertsFromVerified (world.execute pid call env).2 := by
  intro entry member creation made
  rw [World.execute_history, List.mem_cons] at member
  rcases member with rfl | old
  · obtain ⟨rfl, _⟩ := Exchange.mk.inj made
    obtain ⟨_, _, _, _, proper⟩ := minds_request _ (by simp) minded
    obtain ⟨_, caseId, c, policy, _, _, ⟨row, reportIds, found, _, built⟩, new, _⟩ := proper
    have read := PostgresCaseRepository.reconstitute_ok row reportIds c built
    have verifiedRow : isVerifiedOrLater row.status = true := by
      have checked := new.verified
      rw [read] at checked
      exact checked
    have rowId : row.id = caseId :=
      (run.stale caseId row (World.knows_trace pid world _ _ found)).1
    have subject : creation.alert.caseId = caseId := by
      rw [new.caseId, read]
      exact rowId
    obtain ⟨before, inHistory⟩ := World.mem_trace pid world _ _ found
    obtain ⟨later, earlier, split⟩ := List.append_of_mem inHistory
    rcases followed later _ earlier caseId row split rfl verifiedRow with
      ⟨stored, inCases, same, still⟩ | cancelled
    · exact ⟨stored, inCases, same.trans subject.symm, still⟩
    · have since : CancelledSince world.history pid creation.alert.caseId :=
        ⟨later, _, earlier, row, split, rfl, by rw [subject]; rfl, by rw [subject]; exact cancelled⟩
      exact absurd since (uncancelled creation rfl)
  · exact verified entry old creation made

end Step

/-- As long as no case is cancelled between the moment a request reads it and the moment it inserts
an alert for it, every alert is inserted while its case is verified, active or resolved. -/
theorem alerts_are_of_verified_cases (server : Server) (jobs : Nat → Job) (init : Db)
    (cases : init.cases = []) (links : init.caseReports = []) (events : init.caseEvents = [])
    (messages : ∀ message ∈ init.outboxEvents, message.aggregateType ≠ "CASE")
    (config : Pool) (reached : server.Reaches jobs uncancelledRules init config) :
    AlertsFromVerified config.state := by
  have ledger := caseLedger_empty init cases links events messages
  have first : CaseRun (World.initial init) ∧ ReadsFollowed (World.initial init) ∧
      AlertsFromVerified (World.initial init) := by
    refine ⟨.initial ledger, ?_, by simp [AlertsFromVerified, World.initial]⟩
    intro later entry earlier _ _ history
    simp [World.initial] at history
  have known := reach_holds (server.mindful jobs uncancelledRules) _ _
    (fun world => CaseRun world ∧ ReadsFollowed world ∧ AlertsFromVerified world) first
    (fun pid call env world legal known => by
      obtain ⟨run, followed, verified⟩ := known
      have proper := caseProper_of_minds server (jobs pid) pid world call legal.2
      exact ⟨run.execute pid call env proper, followed.execute run pid call proper env,
        verified.execute followed run pid call env legal.2 legal.1⟩)
    config (server.reaches_minded jobs uncancelledRules init config reached)
  exact known.2.2

namespace Scenario

def withdrawnJobs : Nat → Job
  | 0 => .request (Supply.of 0) [] (.createCase ⟨1⟩ .missingChild)
  | 1 => .request (Supply.of 1) [] (.createCaseEvent caseSegment .underReview)
  | 2 => .request (Supply.of 2) (signedIn "admin") (.verifyCase caseSegment)
  | 3 => .request (Supply.of 3) (signedIn "admin") (.createAlert caseSegment alertRequest)
  | _ => .request (Supply.of 4) (signedIn "admin") (.createCaseEvent caseSegment .cancelled)

def verifiedSchedule : List (Label Env) := runs 0 1 ++ runs 1 3 ++ runs 2 7

/-- The case is cancelled between the read of the alert's request and its insertion. -/
def withdrawnRace : List (Label Env) :=
  verifiedSchedule ++ runs 3 4 ++ runs 4 4 ++ [.call 3 env]

def alertOfCancelled (config : Pool) : Bool :=
  match config.state.history with
  | ⟨_, .createAlert creation, .ok .created, before⟩ :: _ =>
      decide ((before.cases.filter fun row => row.id = creation.alert.caseId).map (·.status) =
        [.cancelled])
  | _ => false

theorem alertOfCancelled_unverified (config : Pool) (h : alertOfCancelled config = true) :
    ¬AlertsFromVerified config.state := by
  intro verified
  simp only [alertOfCancelled] at h
  split at h
  · rename_i pid creation before older history
    obtain ⟨row, member, same, status⟩ := verified _ (history ▸ List.mem_cons_self) creation rfl
    have statuses := of_decide_eq_true h
    have listed : row.status ∈ (before.cases.filter fun row =>
        row.id = creation.alert.caseId).map (·.status) :=
      List.mem_map_of_mem (List.mem_filter.mpr ⟨member, by simpa using same⟩)
    rw [statuses, List.mem_singleton] at listed
    simp [listed, isVerifiedOrLater] at status
  · cases h

/-- An alert is inserted for a cancelled case. -/
theorem alert_of_cancelled_case : ∃ config : Pool,
    server.Reaches withdrawnJobs freeRules store config ∧ ¬AlertsFromVerified config.state := by
  have run : (play (server.pool withdrawnJobs) (fun _ _ => true) withdrawnRace
      (initially (World.initial store) : Pool)).any alertOfCancelled = true := by decide +kernel
  obtain ⟨config, arrived, late⟩ := play_freely _ _ _ _ run
  exact ⟨config, arrived, alertOfCancelled_unverified config late⟩

def nothingCancelled (config : Pool) : Bool :=
  config.state.history.all fun entry =>
    match entry with
    | ⟨_, .applyReview c _, .ok .applied, _⟩ => decide (c.status ≠ .cancelled)
    | _ => true

theorem nothingCancelled_sound (config : Pool) (label : Label Env)
    (h : nothingCancelled config = true) : uncancelledRules.legal config label := by
  cases label with
  | start pid => trivial
  | halt pid => exact fun _ _ _ => trivial
  | call pid env =>
      intro call next _ creation _ since
      obtain ⟨later, entry, earlier, row, history, _, _, other, between, c, review, made, _,
        status⟩ := since
      have member : other ∈ config.state.history := by
        rw [history]
        exact List.mem_append_left _ between
      have quiet := List.all_eq_true.mp h other member
      obtain ⟨caller, call, answer, before⟩ := other
      obtain ⟨rfl, same⟩ := Exchange.mk.inj made
      obtain rfl := eq_of_heq same
      simp [status] at quiet

/-- The same requests with nobody cancelling. -/
theorem alerts_are_of_verified_cases_run : ∃ config : Pool, config.state.db.alerts.length = 1 ∧
    AlertsFromVerified config.state := by
  have run : (play (server.pool withdrawnJobs) (fun config _ => nothingCancelled config)
      (verifiedSchedule ++ runs 3 5) (initially (World.initial store) : Pool)).any (fun config =>
        decide (config.state.db.alerts.length = 1)) = true := by decide +kernel
  obtain ⟨config, arrived, one, _⟩ := play_reaches _ _ _ nothingCancelled_sound _ _ run
  exact ⟨config, of_decide_eq_true one, alerts_are_of_verified_cases server withdrawnJobs store rfl
    rfl rfl (by simp [store, Db.empty]) config arrived⟩

end Scenario

end SafeCameroon.Incidents
