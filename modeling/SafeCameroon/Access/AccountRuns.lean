import SafeCameroon.Access.Registering

namespace SafeCameroon.Access

open Process

variable {lower : PostgresReviewerRepository.Lower}

theorem accounts_cases {env : Env} {registry after : Registry} {call : Call}
    {answer : Except Failure call.Res} (effect : Effect lower env registry call answer after) :
    ((∀ id email, (⟨call, answer⟩ : Exchange accessInterface) ≠
          ⟨.createReviewer id email, .ok .created⟩) ∧
        (∀ id role organizationId, (⟨call, answer⟩ : Exchange accessInterface) ≠
          ⟨.addMembership id role organizationId, .ok ()⟩) ∧
        after.reviewers = registry.reviewers ∧
        after.tables.memberships = registry.tables.memberships) ∨
      (∃ id email, (⟨call, answer⟩ : Exchange accessInterface) =
          ⟨.createReviewer id email, .ok .created⟩ ∧
        id ∉ registry.reviewers.map (·.id) ∧
        after.reviewers = registry.reviewers ++ [(⟨id, email⟩ : ReviewerRow)] ∧
        after.tables.memberships = registry.tables.memberships) ∨
      ∃ id role organizationId, (⟨call, answer⟩ : Exchange accessInterface) =
          ⟨.addMembership id role organizationId, .ok ()⟩ ∧
        after.reviewers = registry.reviewers ∧
        after.tables.memberships =
          registry.tables.memberships ++ [(⟨id, role, organizationId⟩ : MembershipRow)] := by
  cases effect with
  | idle idle =>
      refine Or.inl ⟨fun id email same => ?_, fun id role organizationId same => ?_, rfl, rfl⟩
      · cases same
        cases idle
      · cases same
        cases idle
  | @reviewerCreated id email unused =>
      refine Or.inr (Or.inl ⟨id, email, rfl, fun taken => ?_, rfl, rfl⟩)
      obtain ⟨row, member, same⟩ := List.mem_map.mp taken
      exact (unused row member).1 same
  | @memberAdded id role organizationId known shaped unused =>
      exact Or.inr (Or.inr ⟨id, role, organizationId, rfl, rfl, rfl⟩)
  | audited auditEvents quiet =>
      refine Or.inl ⟨fun id email same => ?_, fun id role organizationId same => ?_, rfl, rfl⟩
      · rcases quiet with ⟨_, _, _, _, _, rfl⟩ | ⟨_, _, _, _, rfl⟩ <;> cases same
      · rcases quiet with ⟨_, _, _, _, _, rfl⟩ | ⟨_, _, _, _, rfl⟩ <;> cases same
  | _ =>
      refine Or.inl ⟨fun _ _ same => ?_, fun _ _ _ same => ?_, rfl, rfl⟩
      · cases same
      · cases same

theorem known_execute {pid caller : Nat} {call other : Call} {env : Env} {world : World}
    {answer : Except Failure other.Res}
    (known : Known ((world.execute lower caller call env).2.trace pid) other answer) :
    (pid = caller ∧ (⟨other, answer⟩ : Exchange accessInterface) =
        ⟨call, (runCall lower env call world.registry).1⟩) ∨ Known (world.trace pid) other answer := by
  by_cases same : pid = caller
  · subst same
    have traced : (world.execute lower pid call env).2.trace pid =
        ⟨call, (runCall lower env call world.registry).1⟩ :: world.trace pid :=
      (recorded lower).own pid call env world
    rw [Known, traced] at known
    rcases List.mem_cons.mp known with latest | earlier
    · exact Or.inl ⟨rfl, latest⟩
    · exact Or.inr earlier
  · have traced : (world.execute lower caller call env).2.trace pid = world.trace pid :=
      (recorded lower).other caller pid call env world same
    rw [Known, traced] at known
    exact Or.inr known

theorem known_latest (lower : PostgresReviewerRepository.Lower) (caller : Nat) (call : Call)
    (env : Env) (world : World) :
    Known ((world.execute lower caller call env).2.trace caller) call
      (runCall lower env call world.registry).1 := by
  have traced : (world.execute lower caller call env).2.trace caller =
      ⟨call, (runCall lower env call world.registry).1⟩ :: world.trace caller :=
    (recorded lower).own caller call env world
  rw [Known, traced]
  exact List.mem_cons_self

theorem trace_grows (lower : PostgresReviewerRepository.Lower) (pid caller : Nat) (call : Call)
    (env : Env) (world : World) :
    world.trace pid ⊆ (world.execute lower caller call env).2.trace pid := by
  by_cases same : pid = caller
  · subst same
    have traced : (world.execute lower pid call env).2.trace pid =
        ⟨call, (runCall lower env call world.registry).1⟩ :: world.trace pid :=
      (recorded lower).own pid call env world
    rw [traced]
    exact List.subset_cons_self _ _
  · have traced : (world.execute lower caller call env).2.trace pid = world.trace pid :=
      (recorded lower).other caller pid call env world same
    rw [traced]
    exact List.Subset.refl _

theorem findMembership_stored {env : Env} {registry : Registry} {reviewerId : Uuid}
    {membership : Membership}
    (answered : (runCall lower env (.incident (.findMembership reviewerId)) registry).1 =
      .ok (some membership)) :
    (⟨reviewerId, membership.role, membership.organizationId⟩ : MembershipRow) ∈
      registry.tables.memberships := by
  have found := Table.query_ok env.fault Failure.database
    (PostgresOrganizationRepository.findMembership reviewerId) registry.tables (some membership)
    answered
  simp only [PostgresOrganizationRepository.findMembership] at found
  split at found
  · simp at found
  · rename_i row stored
    obtain ⟨member, same⟩ := Table.lookup_some _ _ _ _ stored
    simp only [Table.bind_ok, expect, Role.from_as, Except.ok.injEq, pure,
      Except.pure, Option.some.injEq] at found
    obtain ⟨role, rfl, rfl⟩ := found
    subst same
    exact member

/-- What the memberships and the traces of all requests have to do with each other. -/
structure Lineage (init : Registry) (world : World) : Prop where
  sound : Sound world.registry
  reviewers : init.reviewers <+: world.registry.reviewers
  memberships : init.tables.memberships <+: world.registry.tables.memberships
  added : ∀ row ∈ world.registry.tables.memberships, row ∈ init.tables.memberships ∨ ∃ pid,
    Known (world.trace pid) (.addMembership row.reviewerId row.role row.organizationId) (.ok ())
  stored : ∀ pid id role organizationId,
    Known (world.trace pid) (.addMembership id role organizationId) (.ok ()) →
    (⟨id, role, organizationId⟩ : MembershipRow) ∈ world.registry.tables.memberships
  found : ∀ pid reviewerId membership,
    Known (world.trace pid) (.incident (.findMembership reviewerId)) (.ok (some membership)) →
    (⟨reviewerId, membership.role, membership.organizationId⟩ : MembershipRow) ∈
      world.registry.tables.memberships
  created : ∀ pid id email, Known (world.trace pid) (.createReviewer id email) (.ok .created) →
    id ∈ world.registry.reviewers.map (·.id) ∧ id ∉ init.reviewers.map (·.id)
  once : ∀ pid other id email another,
    Known (world.trace pid) (.createReviewer id email) (.ok .created) →
    Known (world.trace other) (.createReviewer id another) (.ok .created) → pid = other

theorem Lineage.initial {init : Registry} (sound : Sound init) :
    Lineage init (World.initial init) where
  sound := sound
  reviewers := List.prefix_refl _
  memberships := List.prefix_refl _
  added := fun _ member => Or.inl member
  stored := fun _ _ _ _ known => by cases known
  found := fun _ _ _ known => by cases known
  created := fun _ _ _ known => by cases known
  once := fun _ _ _ _ _ known => by cases known

variable {init : Registry} {world : World} {caller : Nat} {call : Call} {env : Env}

theorem accounts_grow (effect : Effect lower env world.registry call
      (runCall lower env call world.registry).1 (runCall lower env call world.registry).2) :
    world.registry.reviewers <+: (runCall lower env call world.registry).2.reviewers ∧
      world.registry.tables.memberships <+:
        (runCall lower env call world.registry).2.tables.memberships := by
  rcases accounts_cases effect with ⟨_, _, same, also⟩ | ⟨id, email, _, _, more, same⟩ |
    ⟨id, role, organizationId, _, same, more⟩
  · exact ⟨same ▸ List.prefix_refl _, also ▸ List.prefix_refl _⟩
  · exact ⟨more ▸ List.prefix_append _ _, same ▸ List.prefix_refl _⟩
  · exact ⟨same ▸ List.prefix_refl _, more ▸ List.prefix_append _ _⟩

theorem Lineage.execute (lineage : Lineage init world) (plain : call.Plain) :
    Lineage init (world.execute lower caller call env).2 := by
  have effect := runCall_effect lower env world.registry call plain
  obtain ⟨reviewersGrow, membershipsGrow⟩ := accounts_grow effect
  have cases := accounts_cases effect
  constructor
  · exact lineage.sound.effect effect
  · exact lineage.reviewers.trans reviewersGrow
  · exact lineage.memberships.trans membershipsGrow
  · intro row member
    have before : row ∈ world.registry.tables.memberships →
        row ∈ init.tables.memberships ∨ ∃ pid,
          Known ((world.execute lower caller call env).2.trace pid)
            (.addMembership row.reviewerId row.role row.organizationId) (.ok ()) := by
      intro earlier
      rcases lineage.added row earlier with initially | ⟨pid, known⟩
      · exact Or.inl initially
      · exact Or.inr ⟨pid, known.mono (trace_grows lower pid caller call env world)⟩
    rcases cases with ⟨_, _, _, same⟩ | ⟨_, _, _, _, _, same⟩ |
      ⟨id, role, organizationId, made, _, more⟩
    · exact before (same ▸ member)
    · exact before (same ▸ member)
    · rcases List.mem_append.mp (more ▸ member) with earlier | new
      · exact before earlier
      · rw [List.mem_singleton.mp new]
        have latest := known_latest lower caller call env world
        rw [Known, made] at latest
        exact Or.inr ⟨caller, latest⟩
  · intro pid id role organizationId known
    rcases known_execute known with ⟨_, made⟩ | earlier
    · rcases cases with ⟨_, silent, _⟩ | ⟨_, _, other, _⟩ | ⟨_, _, _, other, _, more⟩
      · exact absurd made.symm (silent id role organizationId)
      · have clash := made.trans other
        cases clash
      · have same := made.trans other
        cases same
        exact more ▸ List.mem_append_right _ List.mem_cons_self
    · exact membershipsGrow.subset (lineage.stored pid id role organizationId earlier)
  · intro pid reviewerId membership known
    rcases known_execute known with ⟨_, made⟩ | earlier
    · obtain ⟨rfl, answered⟩ := Exchange.mk.inj made
      exact membershipsGrow.subset (findMembership_stored (eq_of_heq answered).symm)
    · exact membershipsGrow.subset (lineage.found pid reviewerId membership earlier)
  · intro pid id email known
    rcases known_execute known with ⟨_, made⟩ | earlier
    · rcases cases with ⟨silent, _⟩ | ⟨_, _, other, unused, more, _⟩ | ⟨_, _, _, other, _⟩
      · exact absurd made.symm (silent id email)
      · have same := made.trans other
        cases same
        refine ⟨?_, fun initially => unused ?_⟩
        · simp only [World.execute_registry, more, List.map_append, List.mem_append]
          exact Or.inr List.mem_cons_self
        · exact (lineage.reviewers.map _).subset initially
      · have clash := made.trans other
        cases clash
    · obtain ⟨member, new⟩ := lineage.created pid id email earlier
      exact ⟨(reviewersGrow.map _).subset member, new⟩
  · intro pid other id email another known also
    -- A reviewer that is created now was not there, and whoever was created before is.
    have fresh : ∀ pid email, Known (world.trace pid) (.createReviewer id email) (.ok .created) →
        ∀ other, (⟨.createReviewer id other, .ok .created⟩ : Exchange accessInterface) ≠
          ⟨call, (runCall lower env call world.registry).1⟩ := by
      intro pid email earlier other made
      rcases cases with ⟨silent, _⟩ | ⟨_, _, named, unused, _⟩ | ⟨_, _, _, named, _⟩
      · exact silent id other made.symm
      · have same := made.trans named
        cases same
        exact unused (lineage.created pid id email earlier).1
      · have clash := made.trans named
        cases clash
    rcases known_execute known with ⟨mine, made⟩ | earlier
    · rcases known_execute also with ⟨theirs, _⟩ | alsoEarlier
      · rw [mine, theirs]
      · exact absurd made (fresh other another alsoEarlier email)
    · rcases known_execute also with ⟨_, made⟩ | alsoEarlier
      · exact absurd made (fresh pid email earlier another)
      · exact lineage.once pid other id email another earlier alsoEarlier

theorem AccountsProper.plain {server : Server} {job : Job} {past : Past} {call : Call}
    (proper : AccountsProper server job past call) : call.Plain := by
  have allowed := proper.allowed
  cases call with
  | incident call =>
      cases call with
      | findMembership reviewerId => trivial
      | _ => exact allowed
  | _ => trivial

section Reached

variable {server : Server} {jobs : Nat → Job} {rules : Rules (accessMachine lower)}
  {config : Pool lower}

theorem initially_told (server : Server) (jobs : Nat → Job) (init : Registry) (pid : Nat) :
    Told (recorded lower) (fun pid => AccountsProper server (jobs pid))
      (fun pid => AccountsEnded (jobs pid))
      (initially (World.initial init) : Pool lower) pid := rfl

theorem accounts_minded (reached : server.Reaches lower jobs rules init config) :
    Reach (rules.after (recorded lower) fun pid => AccountsProper server (jobs pid))
      (server.pool jobs) (initially (World.initial init)) config :=
  reach_after (recorded lower) rules _ _ _ (fun pid => run_accounts server (jobs pid)) _
    (initially_told server jobs init) config reached

theorem accounts_told (reached : server.Reaches lower jobs rules init config) (pid : Nat) :
    Told (recorded lower) (fun pid => AccountsProper server (jobs pid))
      (fun pid => AccountsEnded (jobs pid)) config pid :=
  told_reach (recorded lower) rules _ _ _ (fun pid => run_accounts server (jobs pid)) _
    (initially_told server jobs init) config reached pid

theorem accounts_justified (reached : server.Reaches lower jobs rules init config) (pid : Nat) :
    Justified (AccountsProper server (jobs pid)) (config.state.trace pid) :=
  justified_reach (recorded lower) rules _ _ _ (fun pid => run_accounts server (jobs pid)) _
    (initially_told server jobs init) (fun _ => rfl) config reached pid

theorem lineage_reach (sound : Sound init) (reached : server.Reaches lower jobs rules init config) :
    Lineage init config.state :=
  reach_holds _ _ _ (Lineage init) (Lineage.initial sound)
    (fun _ _ _ _ legal lineage => lineage.execute legal.2.plain) config (accounts_minded reached)

end Reached

end SafeCameroon.Access
