import SafeCameroon.Aggregate.AlertLedger
import SafeCameroon.Incidents.CaseRuns

namespace SafeCameroon.Incidents

open Table Process Text

/-- A membership that was read is the one the table still has. -/
structure MembershipsHold (world : World) : Prop where
  distinct : (world.db.memberships.map (·.reviewerId)).Nodup
  shaped : ∀ row ∈ world.db.memberships, membershipShape row.role row.organizationId = true
  read : ∀ reviewerId membership, world.knows (.findMembership reviewerId) (.ok (some membership)) →
    ∃ row ∈ world.db.memberships, row.reviewerId = reviewerId ∧ row.role = membership.role ∧
      row.organizationId = membership.organizationId

theorem runCall_memberships (env : Env) (call : Call) (db : Db) :
    (runCall env call db).2.memberships = db.memberships ∨
      ∃ row, (runCall env call db).2.memberships = db.memberships ++ [row] ∧
        row.reviewerId ∉ db.memberships.map (·.reviewerId) ∧
        membershipShape row.role row.organizationId = true := by
  have wrote := runCall_wrote env call db
  generalize (runCall env call db).1 = answer at wrote
  generalize (runCall env call db).2 = after at wrote
  cases wrote with
  | idle => exact Or.inl rfl
  | submitted effect => exact Or.inl (by rw [effect.elsewhere])
  | marked effect =>
      simp only [PostgresReportRepository.markUnderReview, Except.ok.injEq,
        Ending.commit.injEq] at effect
      obtain ⟨_, rfl⟩ := effect
      exact Or.inl rfl
  | caseCreated effect => exact Or.inl (by rw [effect.elsewhere])
  | linked effect => exact Or.inl (by rw [effect.elsewhere])
  | reviewed effect => exact Or.inl (by rw [effect.elsewhere])
  | alertCreated effect => exact Or.inl (by rw [effect.elsewhere])
  | alertCancelled effect => exact Or.inl (by rw [effect.elsewhere])
  | edited ran =>
      rename_i edit _
      have ended : (transaction env.fault .database (runEdit env edit) db).1 = .ok () := by
        rw [← runCall, ran]
      have stored : (transaction env.fault .database (runEdit env edit) db).2 = after := by
        rw [← runCall, ran]
      rcases transaction_ok _ _ _ _ _ ended with ⟨_, same⟩ | ⟨committed, result, same⟩
      · exact Or.inl (by rw [← stored, same])
      · rw [← stored, same]
        rcases runEdit_ok env edit db committed result with same | ⟨row, rfl, unused, shaped⟩
        · exact Or.inl (by rw [same])
        · exact Or.inr ⟨row, rfl, unused, shaped⟩

theorem MembershipsHold.execute {world : World} (hold : MembershipsHold world) (pid : Nat)
    (call : Call) (env : Env) : MembershipsHold (world.execute pid call env).2 := by
  have grown : ∀ row ∈ world.db.memberships,
      row ∈ (runCall env call world.db).2.memberships := by
    intro row member
    rcases runCall_memberships env call world.db with same | ⟨added, same, _⟩
    · exact same ▸ member
    · rw [same]
      exact List.mem_append_left _ member
  refine ⟨?_, ?_, ?_⟩
  · rw [World.execute_db]
    rcases runCall_memberships env call world.db with same | ⟨added, same, unused, _⟩
    · exact same ▸ hold.distinct
    · rw [same, List.map_append]
      exact nodup_snoc _ _ hold.distinct unused
  · intro row member
    rw [World.execute_db] at member
    rcases runCall_memberships env call world.db with same | ⟨added, same, _, shaped⟩
    · exact hold.shaped row (same ▸ member)
    · rw [same, List.mem_append, List.mem_singleton] at member
      rcases member with old | rfl
      · exact hold.shaped row old
      · exact shaped
  · intro reviewerId membership known
    rcases World.knows_execute pid call env world _ _ known with old | new
    · obtain ⟨row, member, facts⟩ := hold.read reviewerId membership old
      exact ⟨row, grown row member, facts⟩
    · obtain ⟨rfl, answered⟩ := Exchange.mk.inj new
      have found := query_ok _ _ _ _ _ (eq_of_heq answered).symm
      simp only [PostgresOrganizationRepository.findMembership] at found
      split at found
      · simp at found
      · rename_i row stored
        simp only [Role.from_as, expect_some, bind_ok, pure, Except.pure, Except.ok.injEq,
          Option.some.injEq] at found
        obtain ⟨_, rfl, rfl⟩ := found
        obtain ⟨member, same⟩ := lookup_some _ _ _ _ stored
        exact ⟨row, grown row member, same, rfl, rfl⟩

/-- An event of an alert that a call adds, with what its request was allowed to do. -/
inductive NewAlertEvent (server : Server) (jobs : Nat → Job) (world : World) (after : Db) (pid : Nat)
    (event : AlertEventRow) : Prop where
  | created {creation : AlertCreation}
      (minded : server.minds (jobs pid) (world.trace pid) (.createAlert creation))
      (same : event = alertEventRow creation.event creation.actor)
      (stored : alertRow creation ∈ after.alerts)
  | cancelled {alert : Alert} {cancellation : AlertCancellation}
      (minded : server.minds (jobs pid) (world.trace pid) (.cancelAlert alert cancellation))
      (same : event = alertEventRow cancellation.event cancellation.actor)

/-- What a call does to the alerts, for a caller whose reads are at most behind. -/
structure AlertStepped (server : Server) (jobs : Nat → Job) (world : World) (after : Db) (pid : Nat) :
    Prop where
  ledger : AlertLedger after
  stale : ∀ read, AlertStale world.db read → AlertStale after read
  kept : AlertsKept world.db after
  events : ∀ event ∈ after.alertEvents, event ∈ world.db.alertEvents ∨
    NewAlertEvent server jobs world after pid event

/-- The alerts agree with their events, and whoever read one is at most behind. -/
structure AlertRun (world : World) : Prop where
  ledger : AlertLedger world.db
  stale : ∀ alertId alert, world.knows (.findAlert alertId) (.ok (some alert)) →
    alert.id = alertId ∧ AlertStale world.db alert

section Step

variable {server : Server} {jobs : Nat → Job} {world : World} {pid : Nat}

theorem AlertStepped.untouched {after : Db} (ledger : AlertLedger world.db)
    (alerts : after.alerts = world.db.alerts) (events : after.alertEvents = world.db.alertEvents) :
    AlertStepped server jobs world after pid := by
  have same : after.alerts = world.db.alerts ++ [] := by rw [alerts, List.append_nil]
  exact ⟨ledger.frame alerts events, fun _ stale => stale.appended [] same, .same alerts,
    fun event member => Or.inl (events ▸ member)⟩

theorem minds_request (call : Call) (notEdit : ∀ edit, call ≠ .edit edit)
    (minded : server.minds (jobs pid) (world.trace pid) call) :
    ∃ fresh headers request, jobs pid = .request fresh headers request ∧
      Proper server headers request (knownFrom (world.trace pid)) call := by
  cases job : jobs pid with
  | request fresh headers request =>
      rw [job] at minded
      exact ⟨fresh, headers, request, rfl, minded⟩
  | edit edit =>
      rw [job] at minded
      exact absurd minded (notEdit edit)

theorem AlertRun.stepped (run : AlertRun world) (call : Call) (env : Env)
    (minded : server.minds (jobs pid) (world.trace pid) call) :
    AlertStepped server jobs world (runCall env call world.db).2 pid := by
  have wrote := runCall_wrote env call world.db
  generalize (runCall env call world.db).1 = answer at wrote
  generalize (runCall env call world.db).2 = after at wrote
  have ledger := run.ledger
  cases wrote with
  | idle => exact .untouched ledger rfl rfl
  | submitted effect => exact .untouched ledger (by rw [effect.elsewhere]) (by rw [effect.elsewhere])
  | marked effect =>
      simp only [PostgresReportRepository.markUnderReview, Except.ok.injEq,
        Ending.commit.injEq] at effect
      obtain ⟨_, rfl⟩ := effect
      exact .untouched ledger rfl rfl
  | caseCreated effect =>
      exact .untouched ledger (by rw [effect.elsewhere]) (by rw [effect.elsewhere])
  | linked effect => exact .untouched ledger (by rw [effect.elsewhere]) (by rw [effect.elsewhere])
  | reviewed effect => exact .untouched ledger (by rw [effect.elsewhere]) (by rw [effect.elsewhere])
  | edited _ same => exact .untouched ledger (by rw [same]) (by rw [same])
  | alertCreated effect =>
      rename_i creation
      obtain ⟨_, _, _, _, proper⟩ := minds_request _ (by simp) minded
      obtain ⟨_, _, c, policy, _, _, _, new, _⟩ := proper
      obtain ⟨alerts, _⟩ := ledger.creates effect new
      have stored : alertRow creation ∈ after.alerts := by simp [alerts]
      refine ⟨ledger.issued effect new, fun _ stale => stale.appended _ alerts,
        .appended _ alerts, ?_⟩
      intro event member
      rw [effect.events, List.mem_append, List.mem_singleton] at member
      rcases member with old | same
      · exact Or.inl old
      · exact Or.inr (.created minded same stored)
  | alertCancelled effect =>
      rename_i alert cancellation
      obtain ⟨_, _, _, _, proper⟩ := minds_request _ (by simp) minded
      obtain ⟨_, alertId, before, _, _, _, read, ended, _⟩ := proper
      obtain ⟨ends, _⟩ := cancelAlert_ends _ _ _ _ _ _ ended
      have known := run.stale alertId before (World.knows_trace pid world _ _ read)
      have status : alert.status = .cancelled := by rw [ends.alert]
      refine ⟨ledger.cancels known.2 ends effect, fun _ stale => stale.cancels ledger.distinct effect,
        .cancels ledger.distinct status effect, ?_⟩
      intro event member
      rw [effect.events, List.mem_append, List.mem_singleton] at member
      rcases member with old | same
      · exact Or.inl old
      · exact Or.inr (.cancelled minded same)

theorem findAlert_current (env : Env) (alertId : AlertId) (db : Db) (alert : Alert)
    (answered : (runCall env (.findAlert alertId) db).1 = .ok (some alert)) :
    alert.id = alertId ∧ AlertStale db alert := by
  have found := query_ok _ _ _ _ _ answered
  obtain ⟨row, member, same, describes, status, version⟩ := findById_current _ _ _ _ found
  refine ⟨describes.id.symm.trans same, row, member, describes, ?_⟩
  rw [status, version]
  exact Optimistic.behind_self (row.record [])

theorem AlertRun.execute (run : AlertRun world) (call : Call) (env : Env)
    (minded : server.minds (jobs pid) (world.trace pid) call) :
    AlertRun (world.execute pid call env).2 := by
  have stepped := run.stepped call env minded
  refine ⟨stepped.ledger, ?_⟩
  intro alertId alert known
  rcases World.knows_execute pid call env world _ _ known with old | new
  · have earlier := run.stale alertId alert old
    exact ⟨earlier.1, stepped.stale alert earlier.2⟩
  · obtain ⟨rfl, answered⟩ := Exchange.mk.inj new
    have current := findAlert_current env alertId world.db alert (eq_of_heq answered).symm
    exact ⟨current.1, stepped.stale alert current.2⟩

end Step

def Requested (server : Server) (jobs : Nat → Job) (world : World) (pid : Nat) (reviewerId : Uuid) :
    Prop :=
  ∃ fresh headers request, jobs pid = .request fresh headers request ∧
    ActorKnown server.verify headers (knownFrom (world.trace pid)) (.reviewer reviewerId)

def IssuedWithAuthority (server : Server) (jobs : Nat → Job) (world : World)
    (event : AlertEventRow) : Prop :=
  ∃ pid reviewerId, Requested server jobs world pid reviewerId ∧ event.actorId = some reviewerId ∧
    ∃ row ∈ world.db.alerts, row.id = event.alertId ∧
      ∃ membership organization,
        MembershipRead (knownFrom (world.trace pid)) reviewerId membership organization ∧
        authorizeAlertIssuance membership organization row.visibility = .ok () ∧
        row.issuedByOrganizationId = membership.organizationId

/-- The event is of an alert that its reviewer, by what the request read, might read and cancel. -/
def CancelledWithAuthority (server : Server) (jobs : Nat → Job) (world : World)
    (event : AlertEventRow) : Prop :=
  ∃ pid reviewerId, Requested server jobs world pid reviewerId ∧ event.actorId = some reviewerId ∧
    ∃ row ∈ world.db.alerts, row.id = event.alertId ∧
      ∃ access read, AccessRead (knownFrom (world.trace pid)) reviewerId access ∧
        knownFrom (world.trace pid) (.findAlert row.id) (.ok (some read)) ∧ row.Describes read ∧
        access.canRead server.unicode read = true ∧
        authorizeAlertIssuance access.membership access.organization row.visibility = .ok () ∧
        authorizeAlertCancellation access.membership row.issuedByOrganizationId = .ok ()

/-- Every event of an alert was asked for by somebody who might. -/
structure AlertAuthority (server : Server) (jobs : Nat → Job) (world : World) : Prop where
  issued : ∀ event ∈ world.db.alertEvents, event.eventType = .alertCreated →
    IssuedWithAuthority server jobs world event
  cancelled : ∀ event ∈ world.db.alertEvents, event.eventType = .alertCancelled →
    CancelledWithAuthority server jobs world event

section Authority

variable {server : Server} {jobs : Nat → Job} {world : World}

theorem World.trace_execute (world : World) (other pid : Nat) (call : Call) (env : Env) :
    world.trace other ⊆ (world.execute pid call env).2.trace other := by
  by_cases same : other = pid
  · subst same
    rw [show (world.execute other call env).2.trace other = _ from recorded.own other call env world]
    exact List.subset_cons_self _ _
  · rw [show (world.execute pid call env).2.trace other = _ from
      recorded.other pid other call env world same]
    exact List.Subset.refl _

theorem Requested.execute {pid : Nat} {reviewerId : Uuid}
    (requested : Requested server jobs world pid reviewerId) (other : Nat) (call : Call) (env : Env) :
    Requested server jobs (world.execute other call env).2 pid reviewerId := by
  obtain ⟨fresh, headers, request, job, known⟩ := requested
  exact ⟨fresh, headers, request, job, known.mono (knownFrom_mono (World.trace_execute _ _ _ _ _))⟩

theorem IssuedWithAuthority.execute {event : AlertEventRow}
    (issued : IssuedWithAuthority server jobs world event) (pid : Nat) (call : Call) (env : Env)
    (kept : AlertsKept world.db (runCall env call world.db).2) :
    IssuedWithAuthority server jobs (world.execute pid call env).2 event := by
  obtain ⟨owner, reviewerId, requested, actor, row, member, id, membership, organization, read,
    authorized, issuer⟩ := issued
  obtain ⟨later, stored, same, _⟩ := kept row member
  refine ⟨owner, reviewerId, requested.execute pid call env, actor, later, stored, ?_, membership,
    organization, read.mono (knownFrom_mono (World.trace_execute _ _ _ _ _)), ?_, ?_⟩
  · rw [same]
    exact id
  · rw [same]
    exact authorized
  · rw [same]
    exact issuer

theorem CancelledWithAuthority.execute {event : AlertEventRow}
    (cancelled : CancelledWithAuthority server jobs world event) (pid : Nat) (call : Call) (env : Env)
    (kept : AlertsKept world.db (runCall env call world.db).2) :
    CancelledWithAuthority server jobs (world.execute pid call env).2 event := by
  obtain ⟨owner, reviewerId, requested, actor, row, member, id, access, read, accessible, found,
    describes, readable, issuance, cancellation⟩ := cancelled
  obtain ⟨later, stored, same, _⟩ := kept row member
  have keeps := knownFrom_mono (World.trace_execute world owner pid call env)
  refine ⟨owner, reviewerId, requested.execute pid call env, actor, later, stored, ?_, access, read,
    accessible.mono keeps, ?_, ?_, readable, ?_, ?_⟩
  · rw [same]
    exact id
  · rw [same]
    exact keeps _ _ found
  · rw [same]
    exact ⟨describes.id, describes.caseId, describes.visibility, describes.issuer⟩
  · rw [same]
    exact issuance
  · rw [same]
    exact cancellation

theorem canCancel_parts (unicode : UnicodeData) (access : Alerts.AlertAccess) (alert : Alert)
    (allowed : access.canCancel unicode alert = true) :
    access.canRead unicode alert = true ∧
      authorizeAlertIssuance access.membership access.organization alert.visibility = .ok () ∧
      authorizeAlertCancellation access.membership alert.issuedByOrganizationId = .ok () := by
  simp only [Alerts.AlertAccess.canCancel, Bool.and_eq_true] at allowed
  obtain ⟨⟨readable, cancellation⟩, issuance⟩ := allowed
  refine ⟨readable, ?_, ?_⟩
  · cases result : authorizeAlertIssuance access.membership access.organization alert.visibility with
    | error error => simp [result, Except.toBool] at issuance
    | ok value => rfl
  · cases result : authorizeAlertCancellation access.membership alert.issuedByOrganizationId with
    | error error => simp [result, Except.toBool] at cancellation
    | ok value => rfl

theorem AlertAuthority.execute (authority : AlertAuthority server jobs world) (run : AlertRun world)
    (pid : Nat) (call : Call) (env : Env)
    (minded : server.minds (jobs pid) (world.trace pid) call) :
    AlertAuthority server jobs (world.execute pid call env).2 := by
  have stepped := run.stepped call env minded
  have keeps := knownFrom_mono (World.trace_execute world pid pid call env)
  refine ⟨?_, ?_⟩
  · intro event member type
    rcases stepped.events event member with old | new
    · exact (authority.issued event old type).execute pid call env stepped.kept
    · cases new with
      | cancelled minded same =>
          obtain ⟨_, _, _, _, proper⟩ := minds_request _ (by simp) minded
          obtain ⟨_, _, _, _, _, _, _, ended, _⟩ := proper
          have other := (cancelAlert_ends _ _ _ _ _ _ ended).1.type
          rw [same] at type
          simp only [alertEventRow, other] at type
          cases type
      | created minded same stored =>
          obtain ⟨fresh, headers, request, job, proper⟩ := minds_request _ (by simp) minded
          obtain ⟨reviewerId, caseId, c, policy, actor, named, _, new, membership, organization,
            read, authorized, issuer⟩ := proper
          refine ⟨pid, reviewerId, ⟨fresh, headers, request, job, ?_⟩, ?_, _, stored, ?_, membership,
            organization, read.mono keeps, authorized, issuer⟩
          · exact (actor ▸ named).mono keeps
          · rw [same]
            simp only [alertEventRow, actor, Actor.actorId]
          · rw [same]
            exact new.subject.symm
  · intro event member type
    rcases stepped.events event member with old | new
    · exact (authority.cancelled event old type).execute pid call env stepped.kept
    · cases new with
      | created minded same stored =>
          obtain ⟨_, _, _, _, proper⟩ := minds_request _ (by simp) minded
          obtain ⟨_, _, _, _, _, _, _, new, _⟩ := proper
          rw [same] at type
          simp only [alertEventRow, new.type] at type
          cases type
      | cancelled minded same =>
          obtain ⟨fresh, headers, request, job, proper⟩ := minds_request _ (by simp) minded
          obtain ⟨reviewerId, alertId, before, _, _, named, found, ended, access, accessible,
            allowed⟩ := proper
          obtain ⟨ends, actor⟩ := cancelAlert_ends _ _ _ _ _ _ ended
          obtain ⟨id, row, inTable, describes, _⟩ :=
            run.stale alertId before (World.knows_trace pid world _ _ found)
          obtain ⟨readable, issuance, cancellation⟩ := canCancel_parts _ _ _ allowed
          obtain ⟨later, stored, kept, _⟩ := stepped.kept row inTable
          refine ⟨pid, reviewerId, ⟨fresh, headers, request, job, named.mono keeps⟩, ?_, later, stored,
            ?_, access, before, accessible.mono keeps, ?_, ?_, readable, ?_, ?_⟩
          · rw [same]
            simp only [alertEventRow, actor, Actor.actorId]
          · rw [same, kept]
            exact describes.id.trans ends.subject.symm
          · have sameId : later.id = alertId := by
              rw [kept]
              exact describes.id.trans id
            rw [sameId]
            exact keeps _ _ found
          · rw [kept]
            exact ⟨describes.id, describes.caseId, describes.visibility, describes.issuer⟩
          · rw [kept]
            simpa only [describes.visibility] using issuance
          · rw [kept]
            simpa only [describes.issuer] using cancellation

end Authority

section Governed

variable {server : Server} {jobs : Nat → Job} {world : World}

theorem MembershipsHold.same (hold : MembershipsHold world) (pid : Nat) (reviewerId : Uuid)
    (membership : Membership)
    (read : knownFrom (world.trace pid) (.findMembership reviewerId) (.ok (some membership)))
    (member : MembershipRow) (stored : member ∈ world.db.memberships)
    (own : member.reviewerId = reviewerId) :
    member.role = membership.role ∧ member.organizationId = membership.organizationId := by
  obtain ⟨row, inTable, id, role, organization⟩ :=
    hold.read reviewerId membership (World.knows_trace pid world _ _ read)
  obtain rfl := eq_of_key (·.reviewerId) _ hold.distinct row member inTable stored (id.trans own.symm)
  exact ⟨role, organization⟩

end Governed

namespace Scenario

def alertRequest : Alerts.CreateAlertRequest :=
  { policyId := "MISSING_CHILD_COMMUNITY", severity := .high, targetGeography := "Douala", fields := [] }

end Scenario

end SafeCameroon.Incidents
