import SafeCameroon.Access.Requests

namespace SafeCameroon.Access

open Process CitizenSubscriptions

def Request.managed : Request → Option SubscriptionId
  | .getCitizenSubscription id => some id
  | .updateCitizenSubscription id _ => some id
  | .cancelCitizenSubscription id => some id
  | _ => none

def Proves (sha256 : String → Bytes) (headers : List (String × Bytes)) (id : SubscriptionId)
    (registry : Registry) : Prop :=
  ∃ subscription token, PostgresSubscriptionRepository.findById id registry.tables =
      some subscription ∧
    presentedToken headers = some token ∧
    PostgresConsumerRepository.managementTokenHash subscription.consumerId registry =
      some (sha256 token)

variable (lower : PostgresReviewerRepository.Lower) (sha256 : String → Bytes) (pid : Nat)
  (id : SubscriptionId) (headers : List (String × Bytes)) (requestId : Uuid)

section Soundness

/-- Nothing is answered and nothing changed except for whoever proves the token. -/
def Guarded (registry : Registry) {α : Type} (result : Option (Except HandlerError α))
    (world : World) : Prop :=
  ((∃ value, result = some (.ok value)) ∨ world.registry ≠ registry) →
    Proves sha256 headers id registry

theorem guarded_idle {registry : Registry} {α : Type} {result : Option (Except HandlerError α)}
    {world : World} (silent : ∀ value, result ≠ some (.ok value))
    (same : world.registry = registry) :
    Guarded sha256 id headers registry result world := by
  intro served
  cases served with
  | inl answered =>
      obtain ⟨value, answered⟩ := answered
      exact absurd answered (silent value)
  | inr changed => exact absurd same changed

theorem authorize_guarded {α : Type} (rest : Subscription → Handler α) (world : World)
    (granted : Proves sha256 headers id world.registry → ∀ subscription later,
      (rest subscription).Ensures (accessMachine lower) pid
        (Guarded sha256 id headers world.registry) later) :
    ((authorizeCitizenSubscription sha256 id headers requestId).bind rest).Ensures
      (accessMachine lower) pid (Guarded sha256 id headers world.registry) world := by
  have stopped : ∀ later : World, later.registry = world.registry →
      Guarded sha256 id headers world.registry (none : Option (Except HandlerError α)) later :=
    fun later same => guarded_idle sha256 id headers (fun _ same => by cases same) same
  have refused : ∀ (later : World) (error : HandlerError), later.registry = world.registry →
      Guarded sha256 id headers world.registry (some (.error error) : Option (Except _ α)) later :=
    fun later error same => guarded_idle sha256 id headers (fun _ same => by cases same) same
  simp only [authorizeCitizenSubscription, Proc.bind_def, Proc.bind_assoc]
  apply ensures_perform
  · exact stopped world rfl
  · intro env found answer
    have read := Except.ok.inj (Table.query_ok _ _ _ _ _ answer)
    cases found with
    | none => exact refused _ _ rfl
    | some subscription =>
        dsimp only
        cases shown : presentedToken headers with
        | none => exact refused _ _ rfl
        | some token =>
            dsimp only
            rw [Proc.bind_assoc]
            apply ensures_perform
            · exact stopped _ rfl
            · intro env' stored answer'
              have hash := Except.ok.inj (Table.query_ok _ _ _ _ _ answer')
              cases stored with
              | none => exact refused _ _ rfl
              | some storedHash =>
                  dsimp only
                  split
                  · rename_i verified
                    rw [(verifyManagementToken_iff sha256 token storedHash).mp verified |>.symm] at hash
                    exact granted ⟨subscription, token, read, shown, hash⟩ subscription _
                  · exact refused _ _ rfl
            · intro env' error answer'
              exact refused _ _ rfl
  · intro env error answer
    exact refused _ _ rfl

theorem guarded_proved {registry : Registry} (proves : Proves sha256 headers id registry) {α : Type}
    (program : Handler α) (world : World) :
    program.Ensures (accessMachine lower) pid (Guarded sha256 id headers registry) world := by
  induction program generalizing world with
  | done value => exact fun _ => proves
  | fail error => exact fun _ => proves
  | call op next ih => exact ⟨fun _ => proves, fun env => ih _ _⟩

variable (server : Server)

theorem run_managed (job : Job) (managed : job.request.managed = some id) :
    ∃ rest, server.run job =
      (authorizeCitizenSubscription server.sha256 id job.headers job.requestId).bind rest := by
  unfold Server.run Server.handle
  cases request : job.request with
  | getCitizenSubscription other =>
      rw [request] at managed
      cases managed
      exact ⟨_, Proc.bind_assoc _ _ _⟩
  | updateCitizenSubscription other change =>
      rw [request] at managed
      cases managed
      exact ⟨_, Proc.bind_assoc _ _ _⟩
  | cancelCitizenSubscription other =>
      rw [request] at managed
      cases managed
      exact ⟨_, Proc.bind_assoc _ _ _⟩
  | _ =>
      rw [request] at managed
      cases managed

theorem managed_guarded (job : Job) (world : World) (managed : job.request.managed = some id) :
    (server.run job).Ensures (accessMachine lower) pid
      (Guarded server.sha256 id job.headers world.registry) world := by
  obtain ⟨rest, same⟩ := run_managed id server job managed
  rw [same]
  apply authorize_guarded
  intro proves subscription later
  exact guarded_proved lower server.sha256 pid id job.headers proves _ later

end Soundness

section Decision

/-- How authorization by a database that answers decides: the request is dropped in between, it is
refused in the one way, or it goes on with the subscription. Nothing has changed until then. -/
inductive Decided {α : Type} (rest : Subscription → Handler α) (registry : Registry) :
    Option (Except HandlerError α) × World → Prop where
  | dropped (later : World) (kept : later.registry = registry) : Decided rest registry (none, later)
  | refused (later : World) (kept : later.registry = registry)
      (unproved : ¬ Proves sha256 headers id registry) :
      Decided rest registry (some (.error (.api (notFound requestId))), later)
  | granted (subscription : Subscription) (envs : List Env) (later : World)
      (kept : later.registry = registry)
      (found : PostgresSubscriptionRepository.findById id registry.tables = some subscription)
      (proved : Proves sha256 headers id registry) :
      Decided rest registry (alone (accessMachine lower) pid envs (rest subscription) later)

theorem authorize_decided {α : Type} (rest : Subscription → Handler α) (world : World)
    (envs : List Env) (answering : ∀ env ∈ envs, env.fault = false) :
    Decided lower sha256 pid id headers requestId rest world.registry
      (alone (accessMachine lower) pid envs
        ((authorizeCitizenSubscription sha256 id headers requestId).bind rest) world) := by
  have ended : ∀ later : World, later.registry = world.registry → ∀ envs : List Env,
      ¬ Proves sha256 headers id world.registry →
      Decided lower sha256 pid id headers requestId rest world.registry
        (alone (accessMachine lower) pid envs
          (.fail (.api (notFound requestId)) : Handler α) later) := by
    intro later kept envs unproved
    rw [alone_fail]
    exact .refused later kept unproved
  simp only [authorizeCitizenSubscription, Proc.bind_def, Proc.bind_assoc]
  cases envs with
  | nil => exact .dropped world rfl
  | cons env envs =>
      have answers := answering env List.mem_cons_self
      have found : ((accessMachine lower).execute pid (.findSubscription id) env world).1 =
          .ok (PostgresSubscriptionRepository.findById id world.registry.tables) := by
        simp [runCall, Table.query, answers]
      rw [orFail, alone_perform_cons, found]
      dsimp only
      generalize after : (world.execute lower pid (.findSubscription id) env).2 = later
      have kept : later.registry = world.registry := by
        rw [← after]
        rfl
      cases present : PostgresSubscriptionRepository.findById id world.registry.tables with
      | none =>
          apply ended later kept envs
          intro proved
          obtain ⟨subscription, _, found, _⟩ := proved
          rw [present] at found
          cases found
      | some subscription =>
          cases shown : presentedToken headers with
          | none =>
              apply ended later kept envs
              intro proved
              obtain ⟨_, token, _, presented, _⟩ := proved
              rw [shown] at presented
              cases presented
          | some token =>
              have proves_iff : Proves sha256 headers id world.registry ↔
                  PostgresConsumerRepository.managementTokenHash subscription.consumerId
                    world.registry = some (sha256 token) := by
                constructor
                · intro proved
                  obtain ⟨other, token', found, presented, hash⟩ := proved
                  rw [present] at found
                  cases found
                  rw [shown] at presented
                  cases presented
                  exact hash
                · exact fun hash => ⟨subscription, token, present, shown, hash⟩
              simp only [Proc.bind_assoc]
              cases envs with
              | nil => exact .dropped later kept
              | cons env' envs =>
                  have answers' := answering env' (by simp)
                  have stored : ((accessMachine lower).execute pid
                      (.managementTokenHash subscription.consumerId) env' later).1 =
                      .ok (PostgresConsumerRepository.managementTokenHash subscription.consumerId
                        world.registry) := by
                    simp [runCall, Table.query, answers', kept]
                  rw [orFail, alone_perform_cons, stored]
                  dsimp only
                  generalize after' : (later.execute lower pid
                    (.managementTokenHash subscription.consumerId) env').2 = last
                  have kept' : last.registry = world.registry := by
                    rw [← after']
                    exact kept
                  cases hash : PostgresConsumerRepository.managementTokenHash subscription.consumerId
                      world.registry with
                  | none =>
                      apply ended last kept' envs
                      rw [proves_iff, hash]
                      intro same
                      cases same
                  | some storedHash =>
                      dsimp only
                      by_cases verified : verifyManagementToken sha256 token storedHash = true
                      · rw [if_pos verified]
                        have same := (verifyManagementToken_iff sha256 token storedHash).mp verified
                        rw [same.symm] at hash
                        exact .granted subscription envs last kept' present (proves_iff.mpr hash)
                      · rw [if_neg verified]
                        apply ended last kept' envs
                        rw [proves_iff, hash, Option.some.injEq]
                        intro same
                        exact verified ((verifyManagementToken_iff _ _ _).mpr same.symm)

variable (server : Server)

theorem managed_refused (job : Job) (managed : job.request.managed = some id) (world : World)
    (unproved : ¬ Proves server.sha256 job.headers id world.registry) (envs : List Env)
    (answering : ∀ env ∈ envs, env.fault = false) :
    ((alone (accessMachine lower) pid envs (server.run job) world).1 = none ∨
      (alone (accessMachine lower) pid envs (server.run job) world).1 =
        some (.error (.api (notFound job.requestId)))) ∧
    (alone (accessMachine lower) pid envs (server.run job) world).2.registry = world.registry := by
  obtain ⟨rest, same⟩ := run_managed id server job managed
  have decided := authorize_decided lower server.sha256 pid id job.headers job.requestId rest world
    envs answering
  rw [← same] at decided
  revert decided
  generalize alone (accessMachine lower) pid envs (server.run job) world = result
  intro decided
  cases decided with
  | dropped later kept => exact ⟨Or.inl rfl, kept⟩
  | refused later kept _ => exact ⟨Or.inr rfl, kept⟩
  | granted subscription envs later kept found proved => exact absurd proved unproved

theorem get_granted (job : Job) (asks : job.request = .getCitizenSubscription id) (world : World)
    (proved : Proves server.sha256 job.headers id world.registry) (envs : List Env)
    (answering : ∀ env ∈ envs, env.fault = false) :
    (alone (accessMachine lower) pid envs (server.run job) world).1 = none ∨
      ∃ subscription,
        PostgresSubscriptionRepository.findById id world.registry.tables = some subscription ∧
        (alone (accessMachine lower) pid envs (server.run job) world).1 =
          some (.ok (.rules (rulesResponse subscription))) := by
  have same : server.run job =
      (authorizeCitizenSubscription server.sha256 id job.headers job.requestId).bind
        fun subscription => .done (.rules (rulesResponse subscription)) := by
    rw [Server.run, asks, Server.handle]
    exact Proc.bind_assoc _ _ _
  have decided := authorize_decided lower server.sha256 pid id job.headers job.requestId
    (fun subscription => (.done (.rules (rulesResponse subscription)) : Handler Response)) world
    envs answering
  rw [← same] at decided
  revert decided
  generalize alone (accessMachine lower) pid envs (server.run job) world = result
  intro decided
  cases decided with
  | dropped later kept => exact Or.inl rfl
  | refused later kept unproved => exact absurd proved unproved
  | granted subscription envs later kept found proved =>
      refine Or.inr ⟨subscription, found, ?_⟩
      rw [alone_done]

end Decision

section Capability

structure Capability (lower : PostgresReviewerRepository.Lower) (server : Server) : Prop where
  compares : ∀ a b, constantTimeEq a b = true ↔ a = b
  verifies : ∀ token storedHash,
    verifyManagementToken server.sha256 token storedHash = true ↔ server.sha256 token = storedHash
  /-- Rules are returned, changed or deleted for whoever presents the token. -/
  guarded : ∀ pid envs job id (world : World), job.request.managed = some id →
    ((∃ response, (alone (accessMachine lower) pid envs (server.run job) world).1 =
        some (.ok response)) ∨
      (alone (accessMachine lower) pid envs (server.run job) world).2.registry ≠ world.registry) →
    Proves server.sha256 job.headers id world.registry
  granted : ∀ pid envs job id (world : World), job.request = .getCitizenSubscription id →
    Proves server.sha256 job.headers id world.registry → (∀ env ∈ envs, env.fault = false) →
    (alone (accessMachine lower) pid envs (server.run job) world).1 ≠ none →
    ∃ subscription,
      PostgresSubscriptionRepository.findById id world.registry.tables = some subscription ∧
      (alone (accessMachine lower) pid envs (server.run job) world).1 =
        some (.ok (.rules (rulesResponse subscription)))
  /-- Whoever does not present it sees the same of any two registries, and changes neither. -/
  alike : ∀ (pids : Nat × Nat) (envs others : List Env) (job other : Job) id (world elsewhere : World),
    job.request.managed = some id → other.request = job.request →
    ¬ Proves server.sha256 job.headers id world.registry →
    ¬ Proves server.sha256 other.headers id elsewhere.registry →
    (∀ env ∈ envs, env.fault = false) → (∀ env ∈ others, env.fault = false) →
    (alone (accessMachine lower) pids.1 envs (server.run job) world).1 ≠ none →
    (alone (accessMachine lower) pids.2 others (server.run other) elsewhere).1 ≠ none →
    (∃ error answer,
      (alone (accessMachine lower) pids.1 envs (server.run job) world).1 =
        some (.error (.api error)) ∧
      (alone (accessMachine lower) pids.2 others (server.run other) elsewhere).1 =
        some (.error (.api answer)) ∧
      answer = { error with requestId := other.requestId }) ∧
    (alone (accessMachine lower) pids.1 envs (server.run job) world).2.registry = world.registry ∧
    (alone (accessMachine lower) pids.2 others (server.run other) elsewhere).2.registry =
      elsewhere.registry

/-- Only the management token gives access to a citizen's subscription, and without it a subscription
that is not there, one that reviewers manage and a wrong token look the same. -/
theorem management_token_capability (lower : PostgresReviewerRepository.Lower) (server : Server) :
    Capability lower server where
  compares := constantTimeEq_iff
  verifies := verifyManagementToken_iff server.sha256
  guarded := by
    intro pid envs job id world managed
    have ensured := managed_guarded lower pid id server job world managed
    exact ensures_alone _ pid _ _ _ ensured envs
  granted := by
    intro pid envs job id world asks proved answering finished
    cases get_granted lower pid id server job asks world proved envs answering with
    | inl dropped => exact absurd dropped finished
    | inr answered => exact answered
  alike := by
    intro pids envs others job other id world elsewhere managed same unproved unproved' answering
      answering' finished finished'
    have managed' : other.request.managed = some id := by
      rw [same]
      exact managed
    have here := managed_refused lower pids.1 id server job managed world unproved envs answering
    have there := managed_refused lower pids.2 id server other managed' elsewhere unproved' others
      answering'
    refine ⟨⟨notFound job.requestId, notFound other.requestId, ?_, ?_, rfl⟩, here.2, there.2⟩
    · exact here.1.resolve_left finished
    · exact there.1.resolve_left finished'

end Capability

end SafeCameroon.Access
