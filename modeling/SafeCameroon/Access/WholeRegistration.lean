import SafeCameroon.Access.Registration

namespace SafeCameroon.Access

open Process Text

section WholeRegistration

variable {lower : PostgresReviewerRepository.Lower} {server : Server} {jobs : Nat → Job}
  {init : Registry}

def Committed (job : Job) (past : Past) : Prop :=
  ∃ email, Known past (.createReviewer (job.fresh 0) email) (.ok .created)

/-- Requests meet in any order and calls may fail, but no registration whose reviewer is committed
meets an error or is stopped, and no login asks for a membership that is about to be added. -/
def unbrokenRules (lower : PostgresReviewerRepository.Lower) (jobs : Nat → Job) :
    Rules (accessMachine lower) where
  mayCall := fun pid call env world =>
    (Committed (jobs pid) (World.trace pid world) → ∀ failure,
      (runCall lower env call world.registry).1 ≠ .error failure) ∧
    ∀ reviewerId idToken, call = .incident (.findMembership reviewerId) →
      (jobs pid).request = .googleLogin idToken →
      ∀ other, (jobs other).fresh 0 = reviewerId →
        ¬ Registering (jobs other) (World.trace other world)
  mayHalt := fun pid _ world => ¬ Committed (jobs pid) (World.trace pid world)

def HasMembership (registry : Registry) (reviewerId : Uuid) : Prop :=
  reviewerId ∈ registry.tables.memberships.map (·.reviewerId)

structure Unbroken (server : Server) (jobs : Nat → Job) (init : Registry) (world : World) :
    Prop where
  lineage : Lineage init world
  justified : ∀ pid, Justified (AccountsProper server (jobs pid)) (world.trace pid)
  settled : ∀ row ∈ world.registry.reviewers, HasMembership world.registry row.id ∨
    ∃ pid, (jobs pid).fresh 0 = row.id ∧ Registering (jobs pid) (world.trace pid)
  origin : ∀ row ∈ world.registry.reviewers, row ∈ init.reviewers ∨ ∃ pid,
    Known (world.trace pid) (.createReviewer row.id row.email) (.ok .created)
  added : ∀ pid role organizationId failure,
    ¬ Known (world.trace pid) (.addMembership ((jobs pid).fresh 0) role organizationId) (.error failure)
  audited : ∀ pid request, (jobs pid).request = .register request →
    ∀ auditEventId actor action resourceId requestId failure,
    ¬ Known (world.trace pid) (.recordReviewerAudit auditEventId actor action resourceId requestId)
      (.error failure)
  found : ∀ pid email reviewerId,
    Known (world.trace pid) (.findReviewerByEmail email) (.ok (some reviewerId)) →
    reviewerId ∈ world.registry.reviewers.map (·.id)
  admitted : ∀ pid idToken, (jobs pid).request = .googleLogin idToken → ∀ reviewerId,
    ¬ Known (world.trace pid) (.incident (.findMembership reviewerId)) (.ok none)
  spoken : ∀ pid call, Auth.LoginCall call →
    ¬ Known (world.trace pid) call (.error (.panic Auth.everyReviewerHasMembership))

theorem Unbroken.initial (sound : Sound init)
    (settled : ∀ row ∈ init.reviewers, HasMembership init row.id) :
    Unbroken server jobs init (World.initial init) where
  lineage := Lineage.initial sound
  justified := fun _ => trivial
  settled := fun row member => Or.inl (settled row member)
  origin := fun _ member => Or.inl member
  added := fun _ _ _ _ known => by cases known
  audited := fun _ _ _ _ _ _ _ _ _ known => by cases known
  found := fun _ _ _ known => by cases known
  admitted := fun _ _ _ _ known => by cases known
  spoken := fun _ _ _ known => by cases known

section Answers

variable {env : Env} {registry : Registry}

theorem findReviewerByEmail_stored {email : String} {reviewerId : Uuid}
    (answered : (runCall lower env (.findReviewerByEmail email) registry).1 =
      .ok (some reviewerId)) : reviewerId ∈ registry.reviewers.map (·.id) := by
  have found := Table.query_ok env.fault Failure.database
    (fun registry => .ok (PostgresReviewerRepository.findByEmail lower email registry)) registry
    (some reviewerId) answered
  simp only [PostgresReviewerRepository.findByEmail, Except.ok.injEq] at found
  obtain ⟨row, stored, same⟩ := Option.map_eq_some_iff.mp found
  exact List.mem_map.mpr ⟨row, List.mem_of_find?_eq_some stored, same⟩

theorem findMembership_absent {reviewerId : Uuid}
    (answered : (runCall lower env (.incident (.findMembership reviewerId)) registry).1 =
      .ok none) : ¬ HasMembership registry reviewerId := by
  have found := Table.query_ok env.fault Failure.database
    (PostgresOrganizationRepository.findMembership reviewerId) registry.tables none answered
  simp only [PostgresOrganizationRepository.findMembership] at found
  split at found
  · rename_i absent
    intro has
    obtain ⟨row, member, same⟩ := List.mem_map.mp has
    exact (Table.lookup_none _ _ _).mp absent row member same
  · simp [Table.bind_ok, pure, Except.pure] at found

theorem loginCall_spoken {call : Call} (ours : Auth.LoginCall call) :
    (runCall lower env call registry).1 ≠ .error (.panic Auth.everyReviewerHasMembership) := by
  cases call with
  | incident call =>
      cases call with
      | recordAndCheck scope sourceKey =>
          cases fault : env.fault <;> simp [runCall, Incidents.runCall, Table.query, fault]
      | findMembership reviewerId =>
          cases fault : env.fault with
          | true => simp [runCall, Incidents.runCall, Table.query, fault]
          | false =>
              simp only [runCall, Incidents.runCall, Table.query, fault, Bool.false_eq_true, if_false,
                PostgresOrganizationRepository.findMembership]
              cases Table.lookup (fun row : MembershipRow => row.reviewerId) reviewerId
                  registry.tables.memberships with
              | none => simp
              | some row => simp [expect, bind, Except.bind, pure, Except.pure]
      | _ => cases ours
  | findReviewerByEmail email => cases fault : env.fault <;> simp [runCall, Table.query, fault]
  | recordReviewerAudit auditEventId actor action resourceId requestId =>
      intro spoken
      rcases Table.transaction_cases env.fault Failure.database (inTables
          (PostgresReviewerRepository.recordAuditEvent auditEventId actor action resourceId
            requestId)) registry with
        ⟨error, reason, ended⟩ | ⟨value, _, ended⟩ | ⟨value, after, _, ended⟩
      · simp only [runCall, ended, Except.error.injEq] at spoken
        subst spoken
        rcases reason with clash | failed
        · cases clash
        · cases made : PostgresReviewerRepository.recordAuditEvent auditEventId actor action
              resourceId requestId registry.tables with
          | error error =>
              simp only [inTables, made, Except.map, Except.error.injEq] at failed
              have clash := PostgresReviewerRepository.recordAuditEvent_error made
              rw [failed] at clash
              cases clash
          | ok ending => simp [inTables, made, Except.map] at failed
      · simp [runCall, ended] at spoken
      · simp [runCall, ended] at spoken
  | _ => cases ours

end Answers

section Step

variable {world : World} {caller : Nat} {call : Call} {env : Env}

theorem registering_execute {pid : Nat} (differs : pid ≠ caller)
    (registering : Registering (jobs pid) (world.trace pid)) :
    Registering (jobs pid) ((world.execute lower caller call env).2.trace pid) := by
  have same : (world.execute lower caller call env).2.trace pid = world.trace pid :=
    (recorded lower).other caller pid call env world differs
  rwa [same]

theorem Unbroken.settled_execute (unbroken : Unbroken server jobs init world)
    (proper : AccountsProper server (jobs caller) (world.trace caller) call)
    (whole : Committed (jobs caller) (world.trace caller) → ∀ failure,
      (runCall lower env call world.registry).1 ≠ .error failure) :
    ∀ row ∈ (runCall lower env call world.registry).2.reviewers,
      HasMembership (runCall lower env call world.registry).2 row.id ∨
        ∃ pid, (jobs pid).fresh 0 = row.id ∧
          Registering (jobs pid) ((world.execute lower caller call env).2.trace pid) := by
  have effect := runCall_effect lower env world.registry call proper.plain
  have grown := (accounts_grow effect).2
  intro row member
  -- A reviewer who was there keeps what it has, unless its membership is added now.
  have before : row ∈ world.registry.reviewers →
      (∀ pid, (jobs pid).fresh 0 = row.id → Registering (jobs pid) (world.trace pid) →
        pid = caller → HasMembership (runCall lower env call world.registry).2 row.id) →
      HasMembership (runCall lower env call world.registry).2 row.id ∨
        ∃ pid, (jobs pid).fresh 0 = row.id ∧
          Registering (jobs pid) ((world.execute lower caller call env).2.trace pid) := by
    intro there adds
    rcases unbroken.settled row there with has | ⟨pid, drawn, registering⟩
    · exact Or.inl ((grown.map _).subset has)
    · by_cases mine : pid = caller
      · exact Or.inl (adds pid drawn registering mine)
      · exact Or.inr ⟨pid, drawn, registering_execute mine registering⟩
  rcases accounts_cases effect with ⟨_, silent, same, _⟩ | ⟨id, email, made, unused, more, _⟩ |
    ⟨id, role, organizationId, made, same, more⟩
  · refine before (same ▸ member) fun pid drawn registering mine => ?_
    subst mine
    obtain ⟨role, organizationId, named⟩ := proper.onward registering
    subst named
    cases answer : (runCall lower env (.addMembership ((jobs pid).fresh 0) role organizationId)
        world.registry).1 with
    | error failure => exact absurd answer (whole registering.1 failure)
    | ok _ => exact absurd (by rw [answer]) (silent ((jobs pid).fresh 0) role organizationId)
  · have named := (Exchange.mk.inj made).1
    subst named
    rcases List.mem_append.mp (more ▸ member) with earlier | new
    · refine before earlier fun pid drawn registering mine => ?_
      subst mine
      obtain ⟨role, organizationId, clash⟩ := proper.onward registering
      cases clash
    · rw [List.mem_singleton.mp new]
      obtain ⟨request, count, role, organizationId, registers, rfl, rfl, _⟩ := proper.allowed
      refine Or.inr ⟨caller, rfl, ⟨trim request.email, ?_⟩, ?_⟩
      · have latest := known_latest lower caller (.createReviewer ((jobs caller).fresh 0)
          (trim request.email)) env world
        rwa [Known, made] at latest
      · intro other another answer known
        rcases known_execute known with ⟨_, clash⟩ | earlier
        · cases (Exchange.mk.inj clash).1
        · obtain ⟨past, grown, added⟩ := (unbroken.justified caller).earlier earlier
          obtain ⟨_, _, _, _, created, _⟩ := added.allowed
          exact unused (unbroken.lineage.created caller _ _ (created.mono grown)).1
  · have named := (Exchange.mk.inj made).1
    subst named
    refine before (same ▸ member) fun pid drawn registering mine => ?_
    subst mine
    obtain ⟨_, _, named⟩ := proper.onward registering
    obtain ⟨rfl, rfl, rfl⟩ := Call.addMembership.inj named
    simp only [HasMembership, more, List.map_append, List.mem_append, ← drawn]
    exact Or.inr List.mem_cons_self

theorem Unbroken.execute (unbroken : Unbroken server jobs init world)
    (proper : AccountsProper server (jobs caller) (world.trace caller) call)
    (allowed : (unbrokenRules lower jobs).mayCall caller call env world) :
    Unbroken server jobs init (world.execute lower caller call env).2 := by
  have effect := runCall_effect lower env world.registry call proper.plain
  have grown := (accounts_grow effect).1
  have grows := fun pid => trace_grows lower pid caller call env world
  constructor
  · exact unbroken.lineage.execute proper.plain
  · exact justified_execute (recorded lower) unbroken.justified caller call env proper
  · exact unbroken.settled_execute proper allowed.1
  · intro row member
    have before : row ∈ world.registry.reviewers → row ∈ init.reviewers ∨ ∃ pid,
        Known ((world.execute lower caller call env).2.trace pid)
          (.createReviewer row.id row.email) (.ok .created) := by
      intro there
      rcases unbroken.origin row there with initially | ⟨pid, known⟩
      · exact Or.inl initially
      · exact Or.inr ⟨pid, known.mono (grows pid)⟩
    rcases accounts_cases effect with ⟨_, _, same, _⟩ | ⟨id, email, made, _, more, _⟩ |
      ⟨_, _, _, _, same, _⟩
    · exact before (same ▸ member)
    · rcases List.mem_append.mp (more ▸ member) with earlier | new
      · exact before earlier
      · rw [List.mem_singleton.mp new]
        have latest := known_latest lower caller call env world
        rw [Known, made] at latest
        exact Or.inr ⟨caller, latest⟩
    · exact before (same ▸ member)
  · intro pid role organizationId failure known
    rcases known_execute known with ⟨rfl, made⟩ | earlier
    · obtain ⟨rfl, answered⟩ := Exchange.mk.inj made
      obtain ⟨_, _, _, _, created, _⟩ := proper.allowed
      exact allowed.1 ⟨_, created⟩ failure (eq_of_heq answered).symm
    · exact unbroken.added pid role organizationId failure earlier
  · intro pid request registers auditEventId actor action resourceId requestId failure known
    rcases known_execute known with ⟨rfl, made⟩ | earlier
    · obtain ⟨rfl, answered⟩ := Exchange.mk.inj made
      have committed := proper.allowed request registers
      exact allowed.1 committed failure (eq_of_heq answered).symm
    · exact unbroken.audited pid request registers auditEventId actor action resourceId requestId
        failure earlier
  · intro pid email reviewerId known
    rcases known_execute known with ⟨rfl, made⟩ | earlier
    · obtain ⟨rfl, answered⟩ := Exchange.mk.inj made
      exact (grown.map _).subset (findReviewerByEmail_stored (eq_of_heq answered).symm)
    · exact (grown.map _).subset (unbroken.found pid email reviewerId earlier)
  · intro pid idToken login reviewerId known
    rcases known_execute known with ⟨rfl, made⟩ | earlier
    · obtain ⟨rfl, answered⟩ := Exchange.mk.inj made
      -- Whoever signs in was found, so a membership is there or about to be added.
      obtain ⟨email, looked⟩ := proper.allowed idToken login
      obtain ⟨row, there, rfl⟩ := List.mem_map.mp (unbroken.found pid email reviewerId looked)
      have absent := findMembership_absent (eq_of_heq answered).symm
      rcases unbroken.settled row there with has | ⟨other, drawn, registering⟩
      · exact absent has
      · exact allowed.2 row.id idToken rfl login other drawn registering
    · exact unbroken.admitted pid idToken login reviewerId earlier
  · intro pid other ours known
    rcases known_execute known with ⟨rfl, made⟩ | earlier
    · obtain ⟨rfl, answered⟩ := Exchange.mk.inj made
      exact loginCall_spoken ours (eq_of_heq answered).symm
    · exact unbroken.spoken pid other ours earlier

end Step

section Reached

variable {config : Pool lower}

theorem unbroken_reach (sound : Sound init)
    (settled : ∀ row ∈ init.reviewers, HasMembership init row.id)
    (reached : server.Reaches lower jobs (unbrokenRules lower jobs) init config) :
    Unbroken server jobs init config.state :=
  reach_holds _ _ _ (Unbroken server jobs init) (.initial sound settled)
    (fun _ _ _ _ legal unbroken => unbroken.execute legal.2 legal.1) config (accounts_minded reached)

theorem dropped_uncommitted
    (reached : server.Reaches lower jobs (unbrokenRules lower jobs) init config) (pid : Nat)
    (gone : config.slots pid = .gone) : ¬ Committed (jobs pid) (config.state.trace pid) :=
  gone_reach (recorded lower) (unbrokenRules lower jobs) (fun pid past => ¬ Committed (jobs pid) past)
    (fun _ _ _ legal => legal) _ _ (fun _ clash => by cases clash) config reached pid gone

theorem registering_running
    (reached : server.Reaches lower jobs (unbrokenRules lower jobs) init config) (pid : Nat)
    (registering : Registering (jobs pid) (config.state.trace pid)) :
    ∃ role organizationId next, config.slots pid =
      .active (.call (.addMembership ((jobs pid).fresh 0) role organizationId) next) := by
  have told := accounts_told reached pid
  cases slot : config.slots pid with
  | waiting =>
      simp only [Told, slot] at told
      obtain ⟨email, known⟩ := registering.1
      have blank : config.state.trace pid = [] := told
      rw [blank] at known
      cases known
  | gone => exact absurd registering.1 (dropped_uncommitted reached pid slot)
  | active rest =>
      simp only [Told, slot] at told
      cases rest with
      | done value => exact absurd registering told.settled
      | fail error => exact absurd registering told.settled
      | call call next =>
          obtain ⟨role, organizationId, named⟩ := told.1.onward registering
          subst named
          exact ⟨role, organizationId, next, rfl⟩

theorem failed_uncommitted (sound : Sound init)
    (settled : ∀ row ∈ init.reviewers, HasMembership init row.id)
    (reached : server.Reaches lower jobs (unbrokenRules lower jobs) init config) (pid : Nat)
    {request : Auth.RegisterRequest} (registers : (jobs pid).request = .register request)
    (ended : (∃ error, config.slots pid = .active (.fail error)) ∨ config.slots pid = .gone) :
    ¬ Committed (jobs pid) (config.state.trace pid) := by
  rcases ended with ⟨error, failed⟩ | gone
  · intro committed
    obtain ⟨email, created⟩ := committed
    have told := accounts_told reached pid
    simp only [Told, failed, Proc.Honest] at told
    have unbroken := unbroken_reach sound settled reached
    obtain ⟨failure, ⟨role, organizationId, broken⟩ | ⟨_, _, _, _, _, broken⟩⟩ :=
      (told.registered request registers).failed error email rfl created
    · exact unbroken.added pid role organizationId failure broken
    · exact unbroken.audited pid request registers _ _ _ _ _ failure broken
  · exact dropped_uncommitted reached pid gone

end Reached

section Retry

variable {α β : Type} {world : World} {pid : Nat}

def Calm (env : Env) : Prop := env.fault = false ∧ env.revoked = false

theorem alone_orFail {env : Env} {envs : List Env} {error : ApiError} {call : Call}
    {rest : call.Res → Handler β} {value : call.Res}
    (answered : (runCall lower env call world.registry).1 = .ok value) :
    alone (accessMachine lower) pid (env :: envs) ((orFail error call).bind rest) world =
      alone (accessMachine lower) pid envs (rest value) (world.execute lower pid call env).2 := by
  rw [orFail, alone_perform_cons]
  simp only [World.execute_answer, answered]

def Reads (lower : PostgresReviewerRepository.Lower) (pid : Nat) (program : Handler α) (value : α)
    (most : Nat) (world : World) : Prop :=
  ∀ envs : List Env, (∀ env ∈ envs, Calm env) → most ≤ envs.length →
    ∃ used after, used ≤ most ∧ World.registry after = world.registry ∧
      ∀ (β : Type) (rest : α → Handler β),
        alone (accessMachine lower) pid envs (program.bind rest) world =
          alone (accessMachine lower) pid (envs.drop used) (rest value) after

theorem reads_actor (lower : PostgresReviewerRepository.Lower) (pid : Nat) (world : World)
    (headers : List (String × Bytes)) (requestId : Uuid)
    (admitted : header "authorization" headers = none ∨ ∃ verified,
      (((header "authorization" headers).bind headerText).bind
        Incidents.Reviewer.bearerToken).bind server.verify = some verified) :
    ∃ actor, Reads lower pid
      (lift (Incidents.Reviewer.actorFromHeaders server.verify headers requestId)) actor 1 world := by
  rcases admitted with anonymous | ⟨verified, accepted⟩
  · refine ⟨.automated, fun envs _ _ => ⟨0, world, Nat.zero_le _, rfl, fun β rest => ?_⟩⟩
    simp only [Incidents.Reviewer.actorFromHeaders, anonymous]
    rfl
  · obtain ⟨token, bearer, known⟩ := Option.bind_eq_some_iff.mp accepted
    obtain ⟨text, readable, prefixed⟩ := Option.bind_eq_some_iff.mp bearer
    obtain ⟨value, present, readable⟩ := Option.bind_eq_some_iff.mp readable
    refine ⟨.reviewer verified.reviewerId, fun envs calm long => ?_⟩
    cases envs with
    | nil => simp at long
    | cons env envs =>
        obtain ⟨faultless, current⟩ := calm env List.mem_cons_self
        let call : Call := .incident (.isSessionRevoked verified.reviewerId verified.issuedAt)
        have answered : (runCall lower env call world.registry).1 = .ok false := by
          simp [call, runCall, Incidents.runCall, Table.query, faultless, current]
        refine ⟨1, (world.execute lower pid call env).2, Nat.le_refl _, rfl, fun β rest => ?_⟩
        simp only [Incidents.Reviewer.actorFromHeaders, present, readable, Option.bind_some, prefixed,
          known, List.drop_succ_cons, List.drop_zero]
        show alone (accessMachine lower) pid envs _ (world.execute lower pid call env).2 = _
        have executed : ((accessMachine lower).execute pid (Call.incident (.isSessionRevoked
            verified.reviewerId verified.issuedAt)) env world).1 = .ok false := answered
        rw [executed]
        rfl

theorem reads_granter (lower : PostgresReviewerRepository.Lower) (pid : Nat)
    (unmembered : world.registry.tables.memberships = []) (actor : Actor)
    (requestId : Uuid) :
    Reads lower pid (Auth.granterMembership actor requestId) none 1 world := by
  intro envs calm long
  cases actor with
  | automated => exact ⟨0, world, Nat.zero_le _, rfl, fun β rest => rfl⟩
  | reviewer reviewerId =>
      cases envs with
      | nil => simp at long
      | cons env envs =>
          obtain ⟨faultless, _⟩ := calm env List.mem_cons_self
          have answered : (runCall lower env (.incident (.findMembership reviewerId))
              world.registry).1 = .ok none := by
            simp [runCall, Incidents.runCall, Table.query, faultless,
              PostgresOrganizationRepository.findMembership, unmembered, Table.lookup]
          exact ⟨1, (world.execute lower pid (.incident (.findMembership reviewerId)) env).2,
            Nat.le_refl _, rfl, fun β rest => alone_orFail answered⟩

theorem validEmail_written {email : String} (valid : Auth.validEmail email = true) :
    email.toList.all (· = ' ') = false := by
  simp only [Auth.validEmail, Bool.and_eq_true, decide_eq_true_eq, List.contains_iff_mem] at valid
  rw [List.all_eq_false]
  exact ⟨'@', valid.2, by decide⟩

section Calls

variable (lower)

variable {env : Env} {registry : Registry} {id : Uuid} {email : String}

theorem createReviewer_first (calm : Calm env) (written : email.toList.all (· = ' ') = false)
    (deserted : registry.reviewers = []) :
    runCall lower env (.createReviewer id email) registry =
      (.ok .created, { registry with reviewers := [{ id, email }] }) := by
  simp only [runCall, Table.transaction, calm.1, Bool.false_eq_true, if_false,
    PostgresReviewerRepository.create, written, deserted, List.any_nil, List.nil_append]

theorem addMembership_first (calm : Calm env) (there : registry.reviewers = [{ id, email }])
    (unmembered : registry.tables.memberships = []) :
    runCall lower env (.addMembership id .platformAdmin none) registry =
      (.ok (), Registry.with registry fun db =>
        { db with memberships := [{ reviewerId := id, role := .platformAdmin
                                    organizationId := none }] }) := by
  have unused : id ∉ registry.tables.memberships.map (·.reviewerId) := by simp [unmembered]
  have added := PostgresOrganizationRepository.addMembership_new id .platformAdmin none rfl
    (fun _ clash => by cases clash) unused
  have present : id ∈ registry.reviewers.map (·.id) := by simp [there]
  simp only [runCall, Table.transaction, calm.1, Bool.false_eq_true, if_false, addMembership,
    present, not_true_eq_false, inTables, added, Except.map, Table.Ending.map, unmembered,
    List.nil_append, id_eq]
  rfl

theorem recordReviewerAudit_unused (calm : Calm env) (actor : Actor) (action : String)
    (resourceId : Option Uuid) (requestId : Uuid)
    (unused : id ∉ registry.tables.auditEvents.map (·.id)) :
    ∃ auditEvents, runCall lower env
        (.recordReviewerAudit id actor action resourceId requestId) registry =
      (.ok (), Registry.with registry fun db => { db with auditEvents }) := by
  simp only [runCall, Table.transaction, calm.1, Bool.false_eq_true, if_false, inTables,
    PostgresReviewerRepository.recordAuditEvent, bind, Except.bind,
    Table.insertUnique, unused, pure, Except.pure, Except.map, Table.Ending.map]
  exact ⟨_, rfl⟩

end Calls

theorem saveReviewer_first (lower : PostgresReviewerRepository.Lower) (pid : Nat) (job : Job)
    (actor : Actor) (email : String) (requestId : Uuid)
    (written : email.toList.all (· = ' ') = false) (deserted : world.registry.reviewers = [])
    (unmembered : world.registry.tables.memberships = [])
    (unused : job.fresh 1 ∉ world.registry.tables.auditEvents.map (·.id)) (envs : List Env)
    (calm : ∀ env ∈ envs, Calm env) (long : 3 ≤ envs.length) :
    ∃ after, alone (accessMachine lower) pid envs
        (Auth.saveReviewer job.fresh actor email .platformAdmin none requestId) world =
        (some (.ok { reviewerId := job.fresh 0, email, role := .platformAdmin
                     organizationId := none }), after) ∧
      Holds (World.registry after) (job.fresh 0) .platformAdmin none := by
  match envs, long with
  | first :: second :: third :: envs, _ =>
      have one : runCall lower first (.createReviewer (job.fresh 0) email) world.registry = _ :=
        createReviewer_first lower (calm first (by simp)) written deserted
      let created := (world.execute lower pid (.createReviewer (job.fresh 0) email) first).2
      have there : created.registry.reviewers = [{ id := job.fresh 0, email }] := by
        simp [created, one]
      have still : created.registry.tables = world.registry.tables := by
        simp [created, one]
      have two := addMembership_first lower (calm second (by simp)) there (still ▸ unmembered)
      let added := (created.execute lower pid (.addMembership (job.fresh 0) .platformAdmin none)
        second).2
      have unlogged : job.fresh 1 ∉ added.registry.tables.auditEvents.map (·.id) := by
        simpa [added, two, Registry.with, still] using unused
      obtain ⟨auditEvents, three⟩ := recordReviewerAudit_unused lower (calm third (by simp)) actor
        "REVIEWER_REGISTERED" (some (job.fresh 0)) requestId unlogged
      refine ⟨(added.execute lower pid (.recordReviewerAudit (job.fresh 1) actor
        "REVIEWER_REGISTERED" (some (job.fresh 0)) requestId) third).2, ?_, ?_⟩
      · unfold Auth.saveReviewer
        rw [Proc.bind_def, alone_orFail (congrArg Prod.fst one)]
        show alone (accessMachine lower) _ _ ((orFail _ _).bind _) created = _
        rw [alone_orFail (congrArg Prod.fst two)]
        show alone (accessMachine lower) _ _ ((orFail _ _).bind _) added = _
        rw [alone_orFail (congrArg Prod.fst three)]
        exact alone_done _ _ _ _ _
      · have stored : added.registry.tables.memberships = [⟨job.fresh 0, .platformAdmin, none⟩] :=
          congrArg (fun ended => ended.2.tables.memberships) two
        have kept : (runCall lower third _ added.registry).2.tables.memberships =
            added.registry.tables.memberships :=
          congrArg (fun ended => ended.2.tables.memberships) three
        rw [Holds, World.execute_registry, kept, stored]
        exact List.mem_cons_self

theorem register_first (job : Job) (request : Auth.RegisterRequest)
    (valid : Auth.validEmail (trim request.email) = true)
    (admitted : header "authorization" job.headers = none ∨ ∃ verified,
      (((header "authorization" job.headers).bind headerText).bind
        Incidents.Reviewer.bearerToken).bind server.verify = some verified)
    (deserted : world.registry.reviewers = []) (unmembered : world.registry.tables.memberships = [])
    (unused : job.fresh 1 ∉ world.registry.tables.auditEvents.map (·.id)) (envs : List Env)
    (calm : ∀ env ∈ envs, Calm env) (long : 6 ≤ envs.length) :
    ∃ after, alone (accessMachine lower) pid envs (Auth.register server.verify job.fresh job.headers
        request job.requestId) world =
        (some (.ok { reviewerId := job.fresh 0, email := trim request.email
                     role := .platformAdmin, organizationId := none }), after) ∧
      Holds (World.registry after) (job.fresh 0) .platformAdmin none := by
  obtain ⟨actor, reads⟩ := reads_actor lower pid world job.headers job.requestId admitted
  obtain ⟨used, signedIn, few, same, runs⟩ := reads envs calm (by omega)
  have left : 5 ≤ (envs.drop used).length := by
    rw [List.length_drop]
    omega
  match split : envs.drop used, left with
  | counting :: envs', longer =>
      have calmer : ∀ env ∈ counting :: envs', Calm env := by
        intro env member
        exact calm env (List.mem_of_mem_drop (split ▸ member))
      have counted : (runCall lower counting .countReviewers signedIn.registry).1 = .ok 0 := by
        simp [runCall, Table.query, (calmer counting List.mem_cons_self).1,
          PostgresReviewerRepository.count, same, deserted]
      let after := (signedIn.execute lower pid .countReviewers counting).2
      have still : after.registry = world.registry := same
      have remaining : 4 ≤ envs'.length := by simpa using longer
      obtain ⟨more, known, fewer, also, granterRuns⟩ := reads_granter lower pid
        (still ▸ unmembered) actor job.requestId envs'
        (fun env member => calmer env (List.mem_cons_of_mem _ member)) (by omega)
      obtain ⟨final, saved, holds⟩ := saveReviewer_first lower pid job actor (trim request.email)
        job.requestId (validEmail_written valid) (by rw [also, still, deserted])
        (by rw [also, still, unmembered]) (by rw [also, still]; exact unused) (envs'.drop more)
        (fun env member => calmer env (List.mem_cons_of_mem _ (List.mem_of_mem_drop member)))
        (by rw [List.length_drop]; omega)
      refine ⟨final, ?_, holds⟩
      rw [Auth.register, Proc.bind_def, runs, split, Proc.bind_def, alone_orFail counted]
      -- The count is zero, so the request is for a platform admin and needs no leave.
      show alone (accessMachine lower) pid envs'
        (Proc.bind (Auth.granterMembership actor job.requestId) _) after = _
      rw [granterRuns]
      show alone (accessMachine lower) pid (envs'.drop more)
        (if Auth.validEmail (trim request.email) = true then _ else _) known = _
      rw [if_pos valid, saved]

end Retry

end WholeRegistration

end SafeCameroon.Access
