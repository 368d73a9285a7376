import SafeCameroon.Access.WholeRegistration

namespace SafeCameroon.Access

open Process Text

section AtomicRegistration

variable {lower : PostgresReviewerRepository.Lower} {server : Server} {jobs : Nat → Job}
  {init : Registry}

/-- A session token that was issued goes with the request, or none. -/
def Admitted (server : Server) (job : Job) : Prop :=
  header "authorization" job.headers = none ∨ ∃ verified,
    (((header "authorization" job.headers).bind headerText).bind
      Incidents.Reviewer.bearerToken).bind server.verify = some verified

/-- Registrations leave a reviewer with its membership or nothing, so that every login is answered and
a first registration that failed can be made again. -/
structure AtomicRegistration (server : Server) (jobs : Nat → Job) (init : Registry)
    (config : Pool lower) : Prop where
  accounted : ∀ row ∈ config.state.registry.reviewers,
    HasMembership config.state.registry row.id ∨ ∃ pid role organizationId next,
      (jobs pid).fresh 0 = row.id ∧ config.slots pid =
        .active (.call (.addMembership ((jobs pid).fresh 0) role organizationId) next)
  whole : ∀ pid request, (jobs pid).request = .register request →
    config.slots pid ≠ .waiting → (config.slots pid).running = false →
    (config.state.Created pid ((jobs pid).fresh 0) ∧
        HasMembership config.state.registry ((jobs pid).fresh 0)) ∨
      (¬ config.state.Created pid ((jobs pid).fresh 0) ∧ ∀ role organizationId,
        ¬ Known (config.state.trace pid)
          (.addMembership ((jobs pid).fresh 0) role organizationId) (.ok ()))
  answered : ∀ pid idToken, (jobs pid).request = .googleLogin idToken →
    config.slots pid ≠ .active (.fail (.panicked Auth.everyReviewerHasMembership))
  retried : ∀ pid request, (jobs pid).request = .register request →
    (∃ error, config.slots pid = .active (.fail error)) ∨ config.slots pid = .gone →
    init.reviewers = [] →
    (∀ other reviewerId, other ≠ pid → ¬ config.state.Created other reviewerId) →
    ∀ fresh : Supply, Auth.validEmail (trim request.email) = true → Admitted server (jobs pid) →
      fresh 1 ∉ config.state.registry.tables.auditEvents.map (·.id) →
      ∀ caller (envs : List Env), (∀ env ∈ envs, Calm env) → 6 ≤ envs.length →
      ∃ response after, alone (accessMachine lower) caller envs
          (server.run { jobs pid with fresh }) config.state = (some (.ok response), after) ∧
        Holds (World.registry after) (fresh 0) .platformAdmin none

/-- Where no registration whose reviewer is committed meets an error or is stopped, and no login looks
between the two, registrations are atomic. -/
theorem registration_atomic (server : Server) (jobs : Nat → Job) (init : Registry)
    (sound : Sound init) (settled : ∀ row ∈ init.reviewers, HasMembership init row.id)
    (config : Pool lower)
    (reached : server.Reaches lower jobs (unbrokenRules lower jobs) init config) :
    AtomicRegistration server jobs init config := by
  have unbroken := unbroken_reach sound settled reached
  constructor
  · intro row member
    rcases unbroken.settled row member with has | ⟨pid, drawn, registering⟩
    · exact Or.inl has
    · obtain ⟨role, organizationId, next, slot⟩ := registering_running reached pid registering
      exact Or.inr ⟨pid, role, organizationId, next, drawn, slot⟩
  · intro pid request registers begun done
    by_cases committed : Committed (jobs pid) (config.state.trace pid)
    · refine Or.inl ⟨committed, ?_⟩
      have tried : ¬ Registering (jobs pid) (config.state.trace pid) := by
        intro registering
        obtain ⟨_, _, _, slot⟩ := registering_running reached pid registering
        simp [slot, Slot.running] at done
      by_cases has : HasMembership config.state.registry ((jobs pid).fresh 0)
      · exact has
      · refine absurd ⟨committed, fun role organizationId answer known => ?_⟩ tried
        cases answer with
        | error failure => exact unbroken.added pid role organizationId failure known
        | ok _ =>
            have stored := unbroken.lineage.stored pid _ role organizationId known
            exact has (List.mem_map.mpr ⟨_, stored, rfl⟩)
    · refine Or.inr ⟨committed, fun role organizationId known => committed ?_⟩
      obtain ⟨_, _, _, created, _⟩ := added_granted (unbroken.justified pid) known
      exact created
  · intro pid idToken login failed
    have told := accounts_told reached pid
    simp only [Told, failed, Proc.Honest] at told
    rcases told.panicked idToken login rfl with ⟨reviewerId, known⟩ | ⟨call, ours, known⟩
    · exact unbroken.admitted pid idToken login reviewerId known
    · exact unbroken.spoken pid call ours known
  · intro pid request registers ended deserted single fresh valid admitted unused caller envs calm long
    have uncommitted := failed_uncommitted sound settled reached pid registers ended
    have reviewers : config.state.registry.reviewers = [] := by
      refine List.eq_nil_iff_forall_not_mem.mpr fun row member => ?_
      rcases unbroken.origin row member with initially | ⟨other, created⟩
      · rw [deserted] at initially
        cases initially
      · by_cases mine : other = pid
        · subst mine
          obtain ⟨past, grown, proper⟩ := (unbroken.justified other).earlier created
          obtain ⟨_, _, _, _, _, drawn, _⟩ := proper.allowed
          exact uncommitted ⟨row.email, drawn ▸ created⟩
        · exact single other row.id mine ⟨row.email, created⟩
    have memberships : config.state.registry.tables.memberships = [] := by
      refine List.eq_nil_iff_forall_not_mem.mpr fun row member => ?_
      have known := unbroken.lineage.sound.accounts.known row member
      rw [reviewers] at known
      cases known
    let again : Job := { jobs pid with fresh }
    obtain ⟨after, run, holds⟩ :=
      register_first again request valid admitted reviewers memberships unused envs calm long
    have runs : alone (accessMachine lower) caller envs (server.run again) config.state =
        (some (.ok (.registered { reviewerId := fresh 0, email := trim request.email
                                  role := .platformAdmin, organizationId := none })), after) := by
      simp only [Server.run, Server.handle, again, registers, Proc.map_def]
      rw [alone_map]
      exact congrArg (fun ended => (ended.1.map (Except.map Response.registered), ended.2)) run
    exact ⟨_, after, runs, holds⟩

end AtomicRegistration

namespace Scenario

def lockedOutJobs : Nat → Job
  | 0 => registration 0 [] "ada@example.org" (some .platformAdmin) none
  | 1 => { fresh := Supply.of 1, headers := [], request := .googleLogin "google" }
  | _ => registration 2 [] "ada@example.org" (some .platformAdmin) none

/-- The database fails when the membership of the first reviewer is added. -/
def lockedOutSchedule : List (Label Env) :=
  runs 0 2 ++ [.call 0 { env with fault := true }] ++ runs 1 4 ++ runs 2 1

def failedWith (pid : Nat) (error : HandlerError) (config : Pool lower) : Bool :=
  match config.slots pid with
  | .active (.fail other) => decide (other = error)
  | _ => false

theorem failedWith_slot (pid : Nat) (error : HandlerError) (config : Pool lower)
    (h : failedWith pid error config = true) : config.slots pid = .active (.fail error) := by
  simp only [failedWith] at h
  split at h
  · rename_i other slot
    rw [slot, of_decide_eq_true h]
  · cases h

/-- The reviewer is left without a membership, the login panics, and nobody can register any more. -/
theorem first_registration_locks_out : ∃ config : Pool lower,
    server.Reaches lower lockedOutJobs (freeRules lower) empty config ∧
      (∃ row ∈ config.state.registry.reviewers, ¬ HasMembership config.state.registry row.id) ∧
      config.slots 0 = .active (.fail (.api (Auth.persistenceFailed (Supply.of 0 4)))) ∧
      config.slots 1 = .active (.fail (.panicked Auth.everyReviewerHasMembership)) ∧
      config.slots 2 = .active (.fail (.api (Auth.notAuthorized (Supply.of 2 4)))) ∧
      ¬ AtomicRegistration server lockedOutJobs empty config := by
  have run : (play (server.pool lockedOutJobs) (fun _ _ => true) lockedOutSchedule
      (initially (World.initial empty) : Pool lower)).any (fun config =>
        decide (config.state.registry.reviewers.map (·.id) = [Supply.of 0 0] ∧
          config.state.registry.tables.memberships = []) &&
        (failedWith 0 (.api (Auth.persistenceFailed (Supply.of 0 4))) config &&
        (failedWith 1 (.panicked Auth.everyReviewerHasMembership) config &&
          failedWith 2 (.api (Auth.notAuthorized (Supply.of 2 4))) config))) = true := by
    decide +kernel
  obtain ⟨config, arrived, late⟩ := play_freely _ _ _ _ run
  simp only [Bool.and_eq_true, decide_eq_true_eq] at late
  obtain ⟨⟨ids, none⟩, first, login, again⟩ := late
  have panicked := failedWith_slot 1 _ config login
  obtain ⟨row, member, _⟩ : ∃ row ∈ config.state.registry.reviewers, row.id = Supply.of 0 0 :=
    List.mem_map.mp (ids ▸ List.mem_cons_self)
  refine ⟨config, arrived, ⟨row, member, ?_⟩, failedWith_slot 0 _ config first, panicked,
    failedWith_slot 2 _ config again, fun atomic => atomic.answered 1 "google" rfl panicked⟩
  simp [HasMembership, none]

def unbroken (config : Pool lower) : Label Env → Bool
  | .start _ => true
  | .halt _ => false
  | .call pid env =>
      match config.slots pid with
      | .active (.call call _) =>
          (match (runCall lower env call config.state.registry).1 with
            | .ok _ => true
            | .error _ => false) ||
          (config.state.trace pid).all fun exchange => match exchange.op with
            | .createReviewer _ _ => false
            | _ => true
      | _ => true

/-- A first registration meets an error while it reads, and is made again. -/
def retriedJobs : Nat → Job
  | 0 => registration 0 [] "ada@example.org" none none
  | _ => registration 1 [] "ada@example.org" none none

theorem unbroken_sound (config : Pool lower) (label : Label Env)
    (h : unbroken config label = true) : (unbrokenRules lower retriedJobs).legal config label := by
  cases label with
  | start pid => trivial
  | halt pid => cases h
  | call pid env =>
      intro call next slot
      refine ⟨fun committed failure answered => ?_, fun _ idToken _ login => ?_⟩
      · obtain ⟨email, created⟩ := committed
        simp only [unbroken, slot, answered, Bool.false_or] at h
        have clash := List.all_eq_true.mp h _ created
        cases clash
      · have registers : (retriedJobs pid).request = .register ⟨"ada@example.org", none, none⟩ := by
          cases pid <;> rfl
        rw [registers] at login
        cases login

theorem registration_atomic_retried : ∃ config : Pool lower,
    config.slots 0 = .active (.fail (.api (Auth.persistenceFailed (Supply.of 0 4)))) ∧
      Holds config.state.registry (Supply.of 1 0) .platformAdmin none ∧
      AtomicRegistration server retriedJobs empty config := by
  have run : (play (server.pool retriedJobs) unbroken
      ([.start 0, .call 0 { env with fault := true }] ++ runs 1 4)
      (initially (World.initial empty) : Pool lower)).any (fun config =>
        failedWith 0 (.api (Auth.persistenceFailed (Supply.of 0 4))) config &&
        decide (Holds config.state.registry (Supply.of 1 0) .platformAdmin none)) = true := by
    decide +kernel
  obtain ⟨config, arrived, late, _⟩ := play_reaches _ _ _ unbroken_sound _ _ run
  simp only [Bool.and_eq_true, decide_eq_true_eq] at late
  exact ⟨config, failedWith_slot 0 _ config late.1, late.2,
    registration_atomic server retriedJobs empty empty_sound (fun _ member => by cases member) config
      arrived⟩

end Scenario

end SafeCameroon.Access
