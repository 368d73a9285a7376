import SafeCameroon.Access.Registration

namespace SafeCameroon.Access

open Process

section Bootstrap

variable {lower : PostgresReviewerRepository.Lower} {server : Server} {jobs : Nat → Job}
  {init : Registry}

/-- The request found that its caller may grant the membership that it is for, however many reviewers
there are. -/
def Authorized (server : Server) (job : Job) (past : Past) : Prop :=
  ∃ request count role organizationId granter membership,
    job.request = .register request ∧ Known past .countReviewers (.ok count) ∧
    Auth.requestedMembership count request job.requestId = .ok (role, organizationId) ∧
    job.caller server = some granter ∧
    Known past (.incident (.findMembership granter)) (.ok (some membership)) ∧
    ∀ number, authorizeMembershipGrant (some membership) number role organizationId = .ok ()

theorem Authorized.mono {job : Job} {past later : Past} (authorized : Authorized server job past)
    (grown : past ⊆ later) : Authorized server job later := by
  obtain ⟨request, count, role, organizationId, granter, membership, registers, counted, wanted,
    caller, found, allowed⟩ := authorized
  exact ⟨request, count, role, organizationId, granter, membership, registers, counted.mono grown,
    wanted, caller, found.mono grown, allowed⟩

/-- The request created the reviewer without an authorized granter. -/
def World.Bootstrapped (world : World) (server : Server) (jobs : Nat → Job) (pid : Nat)
    (reviewerId : Uuid) : Prop :=
  world.Created pid reviewerId ∧ ¬ Authorized server (jobs pid) (world.trace pid)

/-- No two reviewers were created without an authorized granter. -/
def BootstrapUnique (server : Server) (jobs : Nat → Job) (world : World) : Prop :=
  ∀ pid other reviewerId another, world.Bootstrapped server jobs pid reviewerId →
    world.Bootstrapped server jobs other another → pid = other ∧ reviewerId = another

/-- Requests meet in any order, but whoever inserts a reviewer without an authorized granter still
finds none. -/
def currentCountRules (lower : PostgresReviewerRepository.Lower) (server : Server)
    (jobs : Nat → Job) : Rules (accessMachine lower) where
  mayCall := fun pid call _ world => ∀ id email, call = .createReviewer id email →
    ¬ Authorized server (jobs pid) (World.trace pid world) → world.registry.reviewers = []
  mayHalt := fun _ _ _ => True

theorem BootstrapUnique.execute {world : World} {caller : Nat} {call : Call} {env : Env}
    (unique : BootstrapUnique server jobs world) (lineage : Lineage init world)
    (current : ∀ id email, call = .createReviewer id email →
      ¬ Authorized server (jobs caller) (world.trace caller) → world.registry.reviewers = []) :
    BootstrapUnique server jobs (world.execute lower caller call env).2 := by
  -- Whoever is created now, without an authorized granter, is the first.
  have first : ∀ pid reviewerId email,
      (⟨.createReviewer reviewerId email, .ok .created⟩ : Exchange accessInterface) =
        ⟨call, (runCall lower env call world.registry).1⟩ → pid = caller →
      ¬ Authorized server (jobs pid) ((world.execute lower caller call env).2.trace pid) →
      ∀ other another, ¬ world.Created other another := by
    intro pid reviewerId email made mine unauthorized other another created
    subst mine
    have named := (Exchange.mk.inj made).1
    have none := current reviewerId email named.symm fun authorized =>
      unauthorized (authorized.mono (trace_grows lower pid pid call env world))
    obtain ⟨address, known⟩ := created
    have there := (lineage.created other another address known).1
    simp [none] at there
  have before : ∀ pid,
      ¬ Authorized server (jobs pid) ((world.execute lower caller call env).2.trace pid) →
      ¬ Authorized server (jobs pid) (world.trace pid) :=
    fun pid unauthorized authorized =>
      unauthorized (authorized.mono (trace_grows lower pid caller call env world))
  intro pid other reviewerId another one two
  obtain ⟨⟨email, made⟩, alone⟩ := one
  obtain ⟨⟨address, alsoMade⟩, alsoAlone⟩ := two
  rcases known_execute made with ⟨mine, now⟩ | earlier
  · rcases known_execute alsoMade with ⟨theirs, alsoNow⟩ | alsoEarlier
    · have same := now.trans alsoNow.symm
      simp only [Exchange.mk.injEq, Call.createReviewer.injEq] at same
      exact ⟨mine.trans theirs.symm, same.1.1⟩
    · exact absurd ⟨address, alsoEarlier⟩ (first pid reviewerId email now mine alone other another)
  · rcases known_execute alsoMade with ⟨theirs, alsoNow⟩ | alsoEarlier
    · exact absurd ⟨email, earlier⟩
        (first other another address alsoNow theirs alsoAlone pid reviewerId)
    · exact unique pid other reviewerId another ⟨⟨email, earlier⟩, before pid alone⟩
        ⟨⟨address, alsoEarlier⟩, before other alsoAlone⟩

/-- Where every count that is acted on without an authorized granter is still right, one reviewer at
most comes without a granter. -/
theorem bootstrap_unique (server : Server) (jobs : Nat → Job) (init : Registry) (sound : Sound init)
    (config : Pool lower)
    (reached : server.Reaches lower jobs (currentCountRules lower server jobs) init config) :
    BootstrapUnique server jobs config.state := by
  have both := reach_holds _ _ _
    (fun world : World => Lineage init world ∧ BootstrapUnique server jobs world)
    ⟨Lineage.initial sound, fun _ _ _ _ one => by
      obtain ⟨⟨_, known⟩, _⟩ := one
      cases known⟩
    (fun _ _ _ _ legal known => ⟨known.1.execute legal.2.plain, known.2.execute known.1 legal.1⟩)
    config (accounts_minded reached)
  exact both.2

end Bootstrap

namespace Scenario

/-- Two people who have not signed in register at once. -/
def rivalJobs : Nat → Job
  | 0 => registration 0 [] "ada@example.org" none none
  | _ => registration 1 [] "eve@example.org" none none

def rivalSchedule : List (Label Env) :=
  runs 0 1 ++ runs 1 1 ++ [.call 0 env, .call 1 env, .call 0 env, .call 1 env]

theorem anonymous_unauthorized (pid : Nat) (past : Past) :
    ¬ Authorized server (rivalJobs pid) past := by
  intro authorized
  obtain ⟨_, _, _, _, _, _, _, _, _, caller, _⟩ := authorized
  have nobody : (rivalJobs pid).caller server = none := by
    cases pid <;> rfl
  rw [nobody] at caller
  cases caller

def creates (reviewerId : Uuid) : Exchange accessInterface → Bool
  | ⟨.createReviewer id _, .ok .created⟩ => decide (id = reviewerId)
  | _ => false

theorem created_of_any {world : World} {pid : Nat} {reviewerId : Uuid}
    (h : (world.trace pid).any (creates reviewerId) = true) : world.Created pid reviewerId := by
  obtain ⟨exchange, member, found⟩ := List.any_eq_true.mp h
  simp only [creates] at found
  split at found
  · rename_i id email
    obtain rfl : id = reviewerId := of_decide_eq_true found
    exact ⟨email, member⟩
  · cases found

/-- Both become platform admins of the empty deployment. -/
theorem rivals_become_platform_admins : ∃ config : Pool lower,
    server.Reaches lower rivalJobs (freeRules lower) empty config ∧
      Holds config.state.registry (Supply.of 0 0) .platformAdmin none ∧
      Holds config.state.registry (Supply.of 1 0) .platformAdmin none ∧
      ¬ BootstrapUnique server rivalJobs config.state := by
  have run : (play (server.pool rivalJobs) (fun _ _ => true) rivalSchedule
      (initially (World.initial empty) : Pool lower)).any (fun config =>
        (decide (Holds config.state.registry (Supply.of 0 0) .platformAdmin none) &&
          decide (Holds config.state.registry (Supply.of 1 0) .platformAdmin none)) &&
        ((config.state.trace 0).any (creates (Supply.of 0 0)) &&
          (config.state.trace 1).any (creates (Supply.of 1 0)))) = true := by decide +kernel
  obtain ⟨config, arrived, late⟩ := play_freely _ _ _ _ run
  simp only [Bool.and_eq_true, decide_eq_true_eq] at late
  obtain ⟨⟨one, other⟩, first, second⟩ := late
  refine ⟨config, arrived, one, other, fun unique => ?_⟩
  have same := (unique 0 1 _ _ ⟨created_of_any first, anonymous_unauthorized 0 _⟩
    ⟨created_of_any second, anonymous_unauthorized 1 _⟩).1
  cases same

def insertsFirst (config : Pool lower) : Label Env → Bool
  | .call pid _ =>
      match config.slots pid with
      | .active (.call (.createReviewer _ _) _) => config.state.registry.reviewers.isEmpty
      | _ => true
  | _ => true

theorem insertsFirst_sound (jobs : Nat → Job) (config : Pool lower) (label : Label Env)
    (h : insertsFirst config label = true) :
    (currentCountRules lower server jobs).legal config label := by
  cases label with
  | start pid => trivial
  | halt pid => exact fun _ _ _ => trivial
  | call pid env =>
      intro call next slot id email named _
      subst named
      simpa [insertsFirst, slot] using h

/-- One of the two comes second and is turned away. -/
theorem bootstrap_unique_turnedAway : ∃ config : Pool lower,
    config.state.registry.reviewers.map (·.id) = [Supply.of 0 0] ∧
      BootstrapUnique server rivalJobs config.state := by
  have run : (play (server.pool rivalJobs) insertsFirst (runs 0 4 ++ runs 1 1)
      (initially (World.initial empty) : Pool lower)).any (fun config =>
        decide (config.state.registry.reviewers.map (·.id) = [Supply.of 0 0])) = true := by
    decide +kernel
  obtain ⟨config, arrived, ids, _⟩ := play_reaches _ _ _ (insertsFirst_sound rivalJobs) _ _ run
  exact ⟨config, of_decide_eq_true ids,
    bootstrap_unique server rivalJobs empty empty_sound config arrived⟩

end Scenario

end SafeCameroon.Access
