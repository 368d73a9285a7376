import SafeCameroon.Incidents.AlertRace

namespace SafeCameroon.Incidents

open Table Process Text

def GenericMove (jobs : Nat → Job) (pid : Nat) (call : Call) (db : Db) : Prop :=
  ∃ fresh headers request c review, jobs pid = .request fresh headers request ∧
    request.generic = true ∧ call = .applyReview c review ∧
    (c.status = .verified ∨ c.status = .resolved) ∧
    ∃ row ∈ db.cases, row.id = c.id ∧ row.aggregateVersion + 1 = c.version

/-- The moves to `VERIFIED` and `RESOLVED` are left to their own endpoints. -/
def dedicatedRules (jobs : Nat → Job) : Rules incidentMachine where
  mayCall := fun pid call _ world => ¬GenericMove jobs pid call world.db
  mayHalt := fun _ _ _ => True

def VerifiedWithAuthority (server : Server) (jobs : Nat → Job) (world : World) (pid : Nat)
    (actor : Actor) (row : CaseRow) : Prop :=
  ∃ reviewerId, actor = .reviewer reviewerId ∧ Requested server jobs world pid reviewerId ∧
    ∃ membership organization,
      MembershipRead (knownFrom (world.trace pid)) reviewerId membership organization ∧
      authorizeCaseVerification membership organization row.incidentType = .ok ()

/-- By what the request read, its reviewer is a platform admin. -/
def ResolvedWithAuthority (server : Server) (jobs : Nat → Job) (world : World) (pid : Nat)
    (actor : Actor) : Prop :=
  ∃ reviewerId, actor = .reviewer reviewerId ∧ Requested server jobs world pid reviewerId ∧
    AdminKnown (knownFrom (world.trace pid)) reviewerId

/-- Every committed move of a case to `VERIFIED` or `RESOLVED` was asked for by somebody who might. -/
def TransitionsAuthorized (server : Server) (jobs : Nat → Job) (world : World) : Prop :=
  ∀ entry ∈ world.history, ∀ c review,
    entry.exchange = ⟨.applyReview c review, .ok .applied⟩ →
      (c.status = .verified → ∀ row ∈ entry.before.cases, row.id = c.id →
        VerifiedWithAuthority server jobs world entry.pid review.actor row) ∧
      (c.status = .resolved → ResolvedWithAuthority server jobs world entry.pid review.actor)

section Step

variable {server : Server} {jobs : Nat → Job} {world : World}

theorem VerifiedWithAuthority.execute {owner : Nat} {actor : Actor} {row : CaseRow}
    (verified : VerifiedWithAuthority server jobs world owner actor row) (pid : Nat) (call : Call)
    (env : Env) : VerifiedWithAuthority server jobs (world.execute pid call env).2 owner actor row := by
  obtain ⟨reviewerId, reviewer, requested, membership, organization, read, authorized⟩ := verified
  exact ⟨reviewerId, reviewer, requested.execute pid call env, membership, organization,
    read.mono (knownFrom_mono (World.trace_execute _ _ _ _ _)), authorized⟩

theorem ResolvedWithAuthority.execute {owner : Nat} {actor : Actor}
    (resolved : ResolvedWithAuthority server jobs world owner actor) (pid : Nat) (call : Call)
    (env : Env) : ResolvedWithAuthority server jobs (world.execute pid call env).2 owner actor := by
  obtain ⟨reviewerId, reviewer, requested, admin⟩ := resolved
  exact ⟨reviewerId, reviewer, requested.execute pid call env,
    admin.mono (knownFrom_mono (World.trace_execute _ _ _ _ _))⟩

theorem reviewer_of_transition (actor : Actor) (after : CaseStatus)
    (flat : authorizeCaseTransition actor after = .ok ()) (further : after ≠ .underReview) :
    ∃ reviewerId, actor = .reviewer reviewerId := by
  cases actor with
  | reviewer reviewerId => exact ⟨reviewerId, rfl⟩
  | automated => cases after <;> simp_all [authorizeCaseTransition]

theorem applyReview_matched (env : Env) (c : Case) (review : CaseReview) (db : Db)
    (applied : (runCall env (.applyReview c review) db).1 = .ok .applied) :
    ∃ row ∈ db.cases, row.id = c.id ∧ row.aggregateVersion + 1 = c.version := by
  have wrote := runCall_wrote env (.applyReview c review) db
  rw [applied] at wrote
  generalize (runCall env (.applyReview c review) db).2 = after at wrote
  cases wrote with
  | idle idle => simp [Call.effective] at idle
  | reviewed effect => exact effect.matched

theorem TransitionsAuthorized.execute (authorized : TransitionsAuthorized server jobs world)
    (run : CaseRun world) (pid : Nat) (call : Call) (env : Env)
    (minded : server.minds (jobs pid) (world.trace pid) call)
    (dedicated : ¬GenericMove jobs pid call world.db) :
    TransitionsAuthorized server jobs (world.execute pid call env).2 := by
  intro entry member c review made
  rw [World.execute_history, List.mem_cons] at member
  rcases member with rfl | old
  · obtain ⟨rfl, answered⟩ := Exchange.mk.inj made
    have applied := eq_of_heq answered
    obtain ⟨fresh, headers, request, job, proper⟩ := minds_request _ (by simp) minded
    obtain ⟨caseId, before, read, domain, permitted⟩ := proper
    have keeps := knownFrom_mono (World.trace_execute world pid pid
      (.applyReview c review) env)
    have specific : c.status = .verified ∨ c.status = .resolved → request.generic = false := by
      intro status
      cases generic : request.generic with
      | false => rfl
      | true =>
          have matched := applyReview_matched env c review world.db applied
          exact absurd ⟨fresh, headers, request, c, review, job, generic, rfl, status, matched⟩
            dedicated
    have asked : ∀ reviewerId, review.actor = .reviewer reviewerId →
        Requested server jobs (world.execute pid (.applyReview c review) env).2 pid reviewerId :=
      fun reviewerId reviewer =>
        ⟨fresh, headers, request, job, (reviewer ▸ permitted.named).mono keeps⟩
    refine ⟨?_, ?_⟩
    · intro status row inTable same
      obtain ⟨reviewerId, reviewer⟩ :=
        reviewer_of_transition _ _ permitted.reviewer (by simp [status])
      obtain ⟨other, membership, organization, ⟨otherRow, _, found, _, built⟩, standing, entitled⟩ :=
        permitted.verified (specific (Or.inl status)) status reviewerId reviewer
      refine ⟨reviewerId, reviewer, asked reviewerId reviewer, membership, organization,
        standing.mono keeps, ?_⟩
      obtain ⟨firstRow, reportIds, firstFound, _, firstBuilt⟩ := read
      have first := run.stale caseId firstRow (World.knows_trace pid world _ _ firstFound)
      have second := run.stale caseId otherRow (World.knows_trace pid world _ _ found)
      have moves := caseMoves_review firstRow reportIds before c review firstBuilt domain
      have key : row.id = otherRow.id := calc
        row.id = c.id := same
        _ = firstRow.id := moves.id
        _ = caseId := first.1
        _ = otherRow.id := second.1.symm
      have current := second.2.current run.ledger.distinct row inTable key
      rw [current.1]
      have incident := PostgresCaseRepository.reconstitute_ok _ _ _ built
      rw [incident] at entitled
      exact entitled
    · intro status
      obtain ⟨reviewerId, reviewer⟩ :=
        reviewer_of_transition _ _ permitted.reviewer (by simp [status])
      have admin := permitted.resolved (specific (Or.inr status)) status reviewerId reviewer
      exact ⟨reviewerId, reviewer, asked reviewerId reviewer, admin.mono keeps⟩
  · obtain ⟨verified, resolved⟩ := authorized entry old c review made
    exact ⟨fun status row inTable same => (verified status row inTable same).execute pid call env,
      fun status => (resolved status).execute pid call env⟩

end Step

/-- As long as the generic endpoint commits no move to `VERIFIED` or `RESOLVED`, every such move was
asked for by a reviewer whom its request found entitled to it. -/
theorem transitions_are_authorized (server : Server) (jobs : Nat → Job) (init : Db)
    (cases : init.cases = []) (links : init.caseReports = []) (events : init.caseEvents = [])
    (messages : ∀ message ∈ init.outboxEvents, message.aggregateType ≠ "CASE")
    (config : Pool) (reached : server.Reaches jobs (dedicatedRules jobs) init config) :
    TransitionsAuthorized server jobs config.state := by
  have ledger := caseLedger_empty init cases links events messages
  have first : CaseRun (World.initial init) ∧
      TransitionsAuthorized server jobs (World.initial init) :=
    ⟨.initial ledger, by simp [TransitionsAuthorized, World.initial]⟩
  have known := reach_holds (server.mindful jobs (dedicatedRules jobs)) _ _
    (fun world => CaseRun world ∧ TransitionsAuthorized server jobs world) first
    (fun pid call env world legal known => by
      obtain ⟨run, authorized⟩ := known
      have proper := caseProper_of_minds server (jobs pid) pid world call legal.2
      exact ⟨run.execute pid call env proper,
        authorized.execute run pid call env legal.2 legal.1⟩)
    config (server.reaches_minded jobs (dedicatedRules jobs) init config reached)
  exact known.2

namespace Scenario

def genericJobs : Nat → Job
  | 0 => .request (Supply.of 0) [] (.createCase ⟨1⟩ .missingChild)
  | 1 => .request (Supply.of 1) [] (.createCaseEvent caseSegment .underReview)
  | _ => .request (Supply.of 2) (signedIn "member") (.createCaseEvent caseSegment .verified)

/-- The newest call verified a case for a process that never asked for a membership. -/
def verifiedUnasked (config : Pool) : Bool :=
  match config.state.history with
  | ⟨pid, .applyReview c _, .ok .applied, before⟩ :: _ =>
      decide (c.status = .verified) && decide (c.id ∈ before.cases.map (·.id)) &&
        (config.state.trace pid).all fun exchange =>
          match exchange.op with
          | .findMembership _ => false
          | _ => true
  | _ => false

theorem verifiedUnasked_unauthorized (jobs : Nat → Job) (config : Pool)
    (h : verifiedUnasked config = true) : ¬TransitionsAuthorized server jobs config.state := by
  intro authorized
  simp only [verifiedUnasked] at h
  split at h
  · rename_i pid c review before older history
    simp only [Bool.and_eq_true, decide_eq_true_eq] at h
    obtain ⟨⟨status, stored⟩, unasked⟩ := h
    obtain ⟨row, member, same⟩ := List.mem_map.mp stored
    obtain ⟨reviewerId, _, _, membership, organization, standing, _⟩ :=
      (authorized _ (history ▸ List.mem_cons_self) c review rfl).1 status row member same
    obtain ⟨found, asked, _⟩ := standing.asked
    have silent := List.all_eq_true.mp unasked _ asked
    simp at silent
  · cases h

/-- The member's case is verified, although nobody asked whether the member may, who may not. -/
theorem member_verifies_over_generic_endpoint : ∃ config : Pool,
    server.Reaches genericJobs freeRules store config ∧
      ¬TransitionsAuthorized server genericJobs config.state ∧
      authorizeCaseVerification { role := .member, organizationId := some organizationId }
        (PostgresOrganizationRepository.findById organizationId config.state.db) .missingChild =
          .error {} := by
  have run : (play (server.pool genericJobs) (fun _ _ => true)
      (runs 0 1 ++ runs 1 3 ++ runs 2 4) (initially (World.initial store) : Pool)).any (fun config =>
        verifiedUnasked config && decide (authorizeCaseVerification
          { role := .member, organizationId := some organizationId }
          (PostgresOrganizationRepository.findById organizationId config.state.db) .missingChild =
            .error {})) = true := by decide +kernel
  obtain ⟨config, arrived, late⟩ := play_freely _ _ _ _ run
  simp only [Bool.and_eq_true, decide_eq_true_eq] at late
  exact ⟨config, arrived, verifiedUnasked_unauthorized genericJobs config late.1, late.2⟩

def genericJob : Job → Bool
  | .request _ _ request => request.generic
  | .edit _ => false

def leavesToDedicated (jobs : Nat → Job) (config : Pool) : Label Env → Bool
  | .call pid _ =>
      match config.slots pid with
      | .active (.call (.applyReview c _) _) =>
          (decide (c.status ≠ .verified) && decide (c.status ≠ .resolved)) || !genericJob (jobs pid)
      | _ => true
  | _ => true

theorem leavesToDedicated_sound (jobs : Nat → Job) (config : Pool) (label : Label Env)
    (h : leavesToDedicated jobs config label = true) : (dedicatedRules jobs).legal config label := by
  cases label with
  | start pid => trivial
  | halt pid => exact fun _ _ _ => trivial
  | call pid env =>
      intro call next slot move
      obtain ⟨fresh, headers, request, c, review, job, generic, rfl, status, _⟩ := move
      have held : genericJob (jobs pid) = true := by
        rw [job]
        exact generic
      simp only [leavesToDedicated, slot, held] at h
      rcases status with verified | resolved
      · simp [verified] at h
      · simp [resolved] at h

/-- A platform admin verifies a case over its own endpoint. -/
theorem transitions_are_authorized_run : ∃ config : Pool,
    config.state.db.cases.map (·.status) = [.verified] ∧
      TransitionsAuthorized server withdrawnJobs config.state := by
  have run : (play (server.pool withdrawnJobs) (leavesToDedicated withdrawnJobs) verifiedSchedule
      (initially (World.initial store) : Pool)).any (fun config =>
        decide (config.state.db.cases.map (·.status) = [.verified])) = true := by decide +kernel
  obtain ⟨config, arrived, statuses, _⟩ :=
    play_reaches _ _ _ (leavesToDedicated_sound withdrawnJobs) _ _ run
  exact ⟨config, of_decide_eq_true statuses, transitions_are_authorized server withdrawnJobs store rfl
    rfl rfl (by simp [store, Db.empty]) config arrived⟩

end Scenario

end SafeCameroon.Incidents
