import SafeCameroon.Access.AccountRuns
import SafeCameroon.Access.Provisioning
import SafeCameroon.Access.Registration

namespace SafeCameroon.Access

open Process Table

/-- From its first write on, what a request that provisions calls answers no error, and the request is
not dropped. -/
def smoothRules (lower : PostgresReviewerRepository.Lower) (jobs : Nat → Job) :
    Rules (accessMachine lower) where
  mayCall := fun pid call env world => (jobs pid).request.provisions = true →
    Wrote (world.trace pid) → ∀ failure, (runCall lower env call world.registry).1 ≠ .error failure
  mayHalt := fun pid _ world => (jobs pid).request.provisions = true → ¬ Wrote (world.trace pid)

def Provided (registry : Registry) (row : OrganizationRow) : Prop :=
  ∃ consumerId, row.consumerId = some consumerId ∧
    consumerId ∈ registry.tables.consumers.map (·.id)

def Preferring (registry : Registry) (consumerId : ConsumerId) : Prop :=
  consumerId ∈ registry.tables.deliveryPreferences.map (·.1)

/-- The process has created the organization and not linked it yet. -/
structure HalfOrganization (world : World) (pid : Nat) (id : OrganizationId) : Prop where
  created : Known (world.trace pid) (.createOrganization id) (.ok ())
  unlinked : ∀ consumerId, ¬ Known (world.trace pid) (.setConsumerId id consumerId) (.ok ())

/-- The process has created the citizen and not stored its preference yet. -/
structure HalfCitizen (world : World) (pid : Nat) (consumerId : ConsumerId) : Prop where
  created : ∃ consumer managementTokenHash, consumer.id = consumerId ∧
    Known (world.trace pid) (.createConsumerWithManagementToken consumer managementTokenHash) (.ok ())
  unset : ∀ preference,
    ¬ Known (world.trace pid) (.upsertDeliveryPreference consumerId preference) (.ok ())

/-- How an organization came to be there after a call: the call provided for it or created it, or it
was there before and was not linked now. -/
inductive OrganizationBy (registry after : Registry) (exchange : Exchange accessInterface)
    (row : OrganizationRow) : Prop where
  | provided (provided : Provided after row)
  | created (made : exchange = ⟨.createOrganization row.id, .ok ()⟩)
  | kept (old : OrganizationRow) (there : old ∈ registry.tables.organizations)
      (same : old.id = row.id) (still : Provided registry old → Provided after row)
      (apart : ∀ consumerId, exchange ≠ ⟨.setConsumerId row.id consumerId, .ok ()⟩)

section Effects

variable {lower : PostgresReviewerRepository.Lower} {env : Env} {registry after : Registry}
  {call : Call} {answer : Except Failure call.Res}

theorem idle_differs (idle : call.effective answer = false) (other : Exchange accessInterface)
    (effective : other.op.effective other.answer = true) : ⟨call, answer⟩ ≠ other := by
  intro same
  rw [← same, idle] at effective
  cases effective

theorem organization_effect (effect : Effect lower env registry call answer after)
    (row : OrganizationRow) (member : row ∈ after.tables.organizations) :
    OrganizationBy registry after ⟨call, answer⟩ row := by
  cases effect with
  | idle silent =>
      exact .kept row member rfl (fun provided => provided)
        fun consumerId => idle_differs silent ⟨.setConsumerId row.id consumerId, .ok ()⟩ rfl
  | audited auditEvents quiet =>
      refine .kept row member rfl (fun provided => provided) ?_
      intro consumerId same
      obtain ⟨rfl, _⟩ := Exchange.mk.inj same
      cases quiet with
      | inl reviewer =>
          obtain ⟨_, _, _, _, _, other⟩ := reviewer
          cases other
      | inr viewed =>
          obtain ⟨_, _, _, _, other⟩ := viewed
          cases other
  | organizationCreated unused =>
      cases List.mem_append.mp member with
      | inl earlier =>
          exact .kept row earlier rfl (fun provided => provided) fun consumerId same => by cases same
      | inr new =>
          obtain rfl := List.mem_singleton.mp new
          exact .created rfl
  | activeSet =>
      obtain ⟨old, there, changed⟩ := (mem_updateWhere _ _ _ _).mp member
      have same : row.id = old.id ∧ row.consumerId = old.consumerId := by
        cases changed with
        | inl chosen =>
            rw [chosen.2]
            exact ⟨rfl, rfl⟩
        | inr other =>
            rw [other.2]
            exact ⟨rfl, rfl⟩
      refine .kept old there same.1.symm ?_ fun consumerId same => by cases same
      intro provided
      obtain ⟨consumerId, owned, known⟩ := provided
      exact ⟨consumerId, by rw [same.2, owned], known⟩
  | linked known free =>
      obtain ⟨old, there, changed⟩ := (mem_updateWhere _ _ _ _).mp member
      cases changed with
      | inl chosen =>
          apply OrganizationBy.provided
          rw [chosen.2]
          exact ⟨_, rfl, known⟩
      | inr other =>
          obtain ⟨apart, rfl⟩ := other
          refine .kept row there rfl (fun provided => provided) ?_
          intro consumerId same
          cases same
          simp at apart
  | consumerCreated unused =>
      refine .kept row member rfl ?_ ?_
      · intro provided
        obtain ⟨consumerId, owned, known⟩ := provided
        refine ⟨consumerId, owned, ?_⟩
        simp only [Registry.with, List.map_append, List.mem_append]
        exact Or.inl known
      · intro consumerId same
        cases same
  | citizenCreated unused =>
      refine .kept row member rfl ?_ ?_
      · intro provided
        obtain ⟨consumerId, owned, known⟩ := provided
        refine ⟨consumerId, owned, ?_⟩
        simp only [List.map_append, List.mem_append]
        exact Or.inl known
      · intro consumerId same
        cases same
  | _ => exact .kept row member rfl (fun provided => provided) fun consumerId same => by cases same

theorem citizen_effect (effect : Effect lower env registry call answer after)
    (entry : ConsumerId × Bytes) (member : entry ∈ after.managementTokenHashes) :
    (∃ consumer, consumer.id = entry.1 ∧ (⟨call, answer⟩ : Exchange accessInterface) =
        ⟨.createConsumerWithManagementToken consumer entry.2, .ok ()⟩) ∨
      entry ∈ registry.managementTokenHashes := by
  cases effect with
  | citizenCreated unused =>
      cases List.mem_append.mp member with
      | inl earlier => exact Or.inr earlier
      | inr new =>
          obtain rfl := List.mem_singleton.mp new
          exact Or.inl ⟨_, rfl, rfl⟩
  | _ => exact Or.inr member

theorem preference_effect (effect : Effect lower env registry call answer after)
    (consumerId : ConsumerId) :
    (Preferring registry consumerId → Preferring after consumerId) ∧
      ∀ preference, (⟨call, answer⟩ : Exchange accessInterface) =
        ⟨.upsertDeliveryPreference consumerId preference, .ok ()⟩ → Preferring after consumerId := by
  cases effect with
  | idle silent =>
      refine ⟨fun there => there, fun preference same => ?_⟩
      exact absurd same (idle_differs silent ⟨.upsertDeliveryPreference consumerId preference,
        .ok ()⟩ rfl)
  | audited auditEvents quiet =>
      refine ⟨fun there => there, fun preference same => ?_⟩
      obtain ⟨rfl, _⟩ := Exchange.mk.inj same
      cases quiet with
      | inl reviewer =>
          obtain ⟨_, _, _, _, _, other⟩ := reviewer
          cases other
      | inr viewed =>
          obtain ⟨_, _, _, _, other⟩ := viewed
          cases other
  | preferenceSet =>
      constructor
      · intro there
        obtain ⟨row, member, same⟩ := List.mem_map.mp there
        rename_i other preference
        by_cases chosen : row.1 = other
        · exact List.mem_map.mpr ⟨_, List.mem_cons_self, chosen.symm.trans same⟩
        · refine List.mem_map.mpr ⟨row, List.mem_cons_of_mem _ ?_, same⟩
          exact List.mem_filter.mpr ⟨member, by simpa using chosen⟩
      · intro preference same
        cases same
        exact List.mem_map.mpr ⟨_, List.mem_cons_self, rfl⟩
  | _ => exact ⟨fun there => there, fun preference same => by cases same⟩

end Effects

section Stocked

variable {lower : PostgresReviewerRepository.Lower} {jobs : Nat → Job} {init : Registry}

/-- What holds of the registry between any two calls. -/
structure Stocked (jobs : Nat → Job) (init : Registry) (world : World) : Prop where
  smooth : ∀ pid, (jobs pid).request.provisions = true → ¬ FailsLate (world.trace pid)
  organizations : ∀ row ∈ world.registry.tables.organizations,
    Provided world.registry row ∨ ∃ pid, HalfOrganization world pid row.id
  citizens : ∀ entry ∈ world.registry.managementTokenHashes,
    Preferring world.registry entry.1 ∨ ∃ pid, HalfCitizen world pid entry.1
  origin : ∀ entry ∈ world.registry.managementTokenHashes,
    entry ∈ init.managementTokenHashes ∨ ∃ pid consumer, consumer.id = entry.1 ∧
      Known (world.trace pid) (.createConsumerWithManagementToken consumer entry.2) (.ok ())

theorem Stocked.initial
    (organizations : ∀ row ∈ init.tables.organizations, Provided init row)
    (citizens : ∀ entry ∈ init.managementTokenHashes, Preferring init entry.1) :
    Stocked jobs init (World.initial init) where
  smooth := fun _ _ late => late
  organizations := fun row member => Or.inl (organizations row member)
  citizens := fun entry member => Or.inl (citizens entry member)
  origin := fun _ member => Or.inl member

variable {caller : Nat} {call : Call} {env : Env} {world : World}

theorem known_older {pid : Nat} {other : Call} {answer : Except Failure other.Res}
    (known : Known (world.trace pid) other answer) :
    Known ((world.execute lower caller call env).2.trace pid) other answer := by
  by_cases same : pid = caller
  · rw [same] at known ⊢
    have traced : (world.execute lower caller call env).2.trace caller = _ :=
      (recorded lower).own caller call env world
    rw [Known, traced]
    exact List.mem_cons_of_mem _ known
  · have traced : (world.execute lower caller call env).2.trace pid = world.trace pid :=
      (recorded lower).other caller pid call env world same
    rw [traced]
    exact known

theorem Stocked.execute (stocked : Stocked jobs init world) (plain : call.Plain)
    (unfailing : (jobs caller).request.provisions = true → Wrote (world.trace caller) →
      ∀ failure, (runCall lower env call world.registry).1 ≠ .error failure)
    (orderly : Orderly (jobs caller) (world.trace caller) call) :
    Stocked jobs init (world.execute lower caller call env).2 := by
  have effect := runCall_effect lower env world.registry call plain
  have latest := known_latest lower caller call env world
  constructor
  · intro pid provisions late
    by_cases same : pid = caller
    · rw [same] at provisions late
      have traced : (world.execute lower caller call env).2.trace caller =
          ⟨call, (runCall lower env call world.registry).1⟩ :: world.trace caller :=
        (recorded lower).own caller call env world
      rw [traced] at late
      cases late with
      | inl now =>
          obtain ⟨⟨failure, failed⟩, wrote⟩ := now
          exact unfailing provisions wrote failure failed
      | inr earlier => exact stocked.smooth caller provisions earlier
    · have traced : (world.execute lower caller call env).2.trace pid = world.trace pid :=
        (recorded lower).other caller pid call env world same
      rw [traced] at late
      exact stocked.smooth pid provisions late
  · intro row member
    cases organization_effect effect row member with
    | provided provided => exact Or.inl provided
    | created made =>
        right
        refine ⟨caller, ?_, ?_⟩
        · rw [Known, ← made]
          exact latest
        · intro consumerId known
          obtain ⟨rfl, _⟩ := Exchange.mk.inj made
          cases known_execute known with
          | inl now =>
              have clash := now.2
              cases clash
          | inr earlier => exact orderly.drawn.2.2 ⟨_, earlier, rfl⟩
    | kept old there same still apart =>
        cases stocked.organizations old there with
        | inl provided => exact Or.inl (still provided)
        | inr half =>
            obtain ⟨pid, half⟩ := half
            right
            refine ⟨pid, known_older (same ▸ half.created), ?_⟩
            intro consumerId known
            cases known_execute known with
            | inl now => exact apart consumerId now.2.symm
            | inr earlier => exact half.unlinked consumerId (same ▸ earlier)
  · intro entry member
    have preferences := preference_effect effect entry.1
    cases citizen_effect effect entry member with
    | inl created =>
        obtain ⟨consumer, same, made⟩ := created
        right
        refine ⟨caller, ⟨consumer, entry.2, same, ?_⟩, ?_⟩
        · rw [Known, ← made]
          exact latest
        · intro preference known
          obtain ⟨rfl, _⟩ := Exchange.mk.inj made
          cases known_execute known with
          | inl now =>
              have clash := now.2
              cases clash
          | inr earlier => exact orderly.drawn.2.2 ⟨_, earlier, rfl⟩
    | inr there =>
        cases stocked.citizens entry there with
        | inl preferring => exact Or.inl (preferences.1 preferring)
        | inr half =>
            obtain ⟨pid, half⟩ := half
            by_cases set : ∃ preference, (⟨call, (runCall lower env call world.registry).1⟩ :
                Exchange accessInterface) = ⟨.upsertDeliveryPreference entry.1 preference, .ok ()⟩
            · obtain ⟨preference, made⟩ := set
              exact Or.inl (preferences.2 preference made)
            · right
              obtain ⟨consumer, managementTokenHash, same, created⟩ := half.created
              refine ⟨pid, ⟨consumer, managementTokenHash, same, known_older created⟩, ?_⟩
              intro preference known
              cases known_execute known with
              | inl now => exact set ⟨preference, now.2.symm⟩
              | inr earlier => exact half.unset preference earlier
  · intro entry member
    cases citizen_effect effect entry member with
    | inl created =>
        obtain ⟨consumer, same, made⟩ := created
        right
        refine ⟨caller, consumer, same, ?_⟩
        rw [Known, ← made]
        exact latest
    | inr there =>
        cases stocked.origin entry there with
        | inl initially => exact Or.inl initially
        | inr known =>
            obtain ⟨pid, consumer, same, created⟩ := known
            exact Or.inr ⟨pid, consumer, same, known_older created⟩

end Stocked

section Provisioned

variable {lower : PostgresReviewerRepository.Lower} {server : Server} {jobs : Nat → Job}
  {init : Registry} {config : Pool lower}

/-- Every organization has a consumer unless the request that creates it is still under way; so has
every citizen a preference, and it was created together with a subscription; and a request that is
answered with an error has written nothing. -/
structure Provisioned (jobs : Nat → Job) (init : Registry) (config : Pool lower) : Prop where
  organizations : ∀ row ∈ config.state.registry.tables.organizations,
    Provided config.state.registry row ∨ ∃ pid name, (jobs pid).request = .createOrganization name ∧
      row.id = ⟨(jobs pid).fresh 0⟩ ∧ (config.slots pid).running = true
  citizens : ∀ entry ∈ config.state.registry.managementTokenHashes,
    Preferring config.state.registry entry.1 ∨ ∃ pid request,
      (jobs pid).request = .createCitizenSubscription request ∧ entry.1 = ⟨(jobs pid).fresh 0⟩ ∧
        (config.slots pid).running = true
  together : ∀ entry ∈ config.state.registry.managementTokenHashes,
    entry ∈ init.managementTokenHashes ∨ ∃ pid request,
      (jobs pid).request = .createCitizenSubscription request ∧ entry.1 = ⟨(jobs pid).fresh 0⟩ ∧
        ((config.slots pid).running = true ∨ ∃ subscription, subscription.consumerId = entry.1 ∧
          Known (config.state.trace pid) (.createSubscription subscription) (.ok ()))
  refused : ∀ pid error, (jobs pid).request.provisions = true →
    config.slots pid = .active (.fail (.api error)) → ¬ Wrote (config.state.trace pid)

/-- What is known of a request when it has ended. -/
abbrev settling (jobs : Nat → Job) (pid : Nat) (past : Past)
    (result : Except HandlerError Response) : Prop :=
  (jobs pid).request.provisions = true → Settled (jobs pid) past result

theorem settling_start (jobs : Nat → Job) (init : Registry) (pid : Nat) :
    Told (recorded lower) (fun pid => Orderly (jobs pid)) (settling jobs)
      (initially (World.initial init) : Pool lower) pid := rfl

theorem settling_told {rules : Rules (accessMachine lower)}
    (reached : server.Reaches lower jobs rules init config) (pid : Nat) :
    Told (recorded lower) (fun pid => Orderly (jobs pid)) (settling jobs) config pid :=
  told_reach (recorded lower) rules _ _ _ (fun pid => run_settled server (jobs pid)) _
    (settling_start jobs init) config reached pid

theorem stocked_reach (organizations : ∀ row ∈ init.tables.organizations, Provided init row)
    (citizens : ∀ entry ∈ init.managementTokenHashes, Preferring init entry.1)
    (reached : server.Reaches lower jobs (smoothRules lower jobs) init config) :
    Stocked jobs init config.state := by
  have minded := reach_after (recorded lower) _ (fun pid => Orderly (jobs pid)) (settling jobs) _
    (fun pid => run_settled server (jobs pid)) _ (settling_start jobs init) config
    (accounts_minded reached)
  apply reach_holds _ _ _ (Stocked jobs init) (.initial organizations citizens) _ config minded
  intro pid call env world legal stocked
  exact stocked.execute legal.1.2.plain legal.1.1 legal.2

/-- A request that provisions and has begun to write is under way, or has written everything. -/
theorem wrote_finished (stocked : Stocked jobs init config.state)
    (reached : server.Reaches lower jobs (smoothRules lower jobs) init config) (pid : Nat)
    (provisions : (jobs pid).request.provisions = true) (wrote : Wrote (config.state.trace pid)) :
    (config.slots pid).running = true ∨ Finished (jobs pid) (config.state.trace pid) := by
  have told := settling_told reached pid
  have smooth := stocked.smooth pid provisions
  cases slot : config.slots pid with
  | waiting =>
      simp only [Told, slot] at told
      have blank : config.state.trace pid = [] := told
      rw [blank] at wrote
      exact absurd wrote not_wrote_nil
  | gone =>
      have still := gone_reach (recorded lower) _
        (fun pid past => (jobs pid).request.provisions = true → ¬ Wrote past)
        (fun _ _ _ halts => halts) _ _ (fun _ gone => by cases gone) config reached pid slot
      exact absurd wrote (still provisions)
  | active rest =>
      simp only [Told, slot] at told
      cases rest with
      | call call next => exact Or.inl rfl
      | done response =>
          cases (told provisions).finished wrote with
          | inl late => exact absurd late smooth
          | inr finished => exact Or.inr finished
      | fail error =>
          cases (told provisions).finished wrote with
          | inl late => exact absurd late smooth
          | inr finished => exact Or.inr finished

theorem known_drawn (reached : server.Reaches lower jobs (smoothRules lower jobs) init config)
    {pid : Nat} {call : Call} {answer : Except Failure call.Res}
    (known : Known (config.state.trace pid) call answer) : ∃ past, Drawn (jobs pid) past call := by
  have justified := justified_reach (recorded lower) _ (fun pid => Orderly (jobs pid))
    (settling jobs) _ (fun pid => run_settled server (jobs pid)) _ (settling_start jobs init)
    (fun _ => rfl) config reached pid
  obtain ⟨past, _, orderly⟩ := justified.earlier known
  exact ⟨past, orderly.drawn⟩

theorem provisioned_reach (organizations : ∀ row ∈ init.tables.organizations, Provided init row)
    (citizens : ∀ entry ∈ init.managementTokenHashes, Preferring init entry.1)
    (reached : server.Reaches lower jobs (smoothRules lower jobs) init config) :
    Provisioned jobs init config := by
  have stocked := stocked_reach organizations citizens reached
  -- Who created a citizen is under way or finished.
  have citizen : ∀ pid consumer managementTokenHash, Known (config.state.trace pid)
      (.createConsumerWithManagementToken consumer managementTokenHash) (.ok ()) →
      ∃ request, (jobs pid).request = .createCitizenSubscription request ∧
        consumer.id = ⟨(jobs pid).fresh 0⟩ ∧ ((config.slots pid).running = true ∨
          Finished (jobs pid) (config.state.trace pid)) := by
    intro pid consumer managementTokenHash known
    obtain ⟨past, drawn⟩ := known_drawn reached known
    obtain ⟨⟨request, creates⟩, own, _⟩ := drawn
    refine ⟨request, creates, own, ?_⟩
    exact wrote_finished stocked reached pid (by rw [creates]; rfl) ⟨_, known, rfl⟩
  constructor
  · intro row member
    cases stocked.organizations row member with
    | inl provided => exact Or.inl provided
    | inr half =>
        obtain ⟨pid, half⟩ := half
        obtain ⟨past, drawn⟩ := known_drawn reached half.created
        obtain ⟨⟨name, creates⟩, own, _⟩ := drawn
        refine Or.inr ⟨pid, name, creates, own, ?_⟩
        cases wrote_finished stocked reached pid (by rw [creates]; rfl) ⟨_, half.created, rfl⟩ with
        | inl running => exact running
        | inr finished =>
            rw [Finished, creates, ← own] at finished
            exact absurd finished (half.unlinked _)
  · intro entry member
    cases stocked.citizens entry member with
    | inl preferring => exact Or.inl preferring
    | inr half =>
        obtain ⟨pid, half⟩ := half
        obtain ⟨consumer, managementTokenHash, same, known⟩ := half.created
        obtain ⟨request, creates, own, ended⟩ := citizen pid consumer managementTokenHash known
        refine Or.inr ⟨pid, request, creates, same.symm.trans own, ?_⟩
        cases ended with
        | inl running => exact running
        | inr finished =>
            rw [Finished, creates, ← own, same] at finished
            obtain ⟨⟨preference, set⟩, _⟩ := finished
            exact absurd set (half.unset preference)
  · intro entry member
    cases stocked.origin entry member with
    | inl initially => exact Or.inl initially
    | inr made =>
        obtain ⟨pid, consumer, same, known⟩ := made
        obtain ⟨request, creates, own, ended⟩ := citizen pid consumer entry.2 known
        refine Or.inr ⟨pid, request, creates, same.symm.trans own, ?_⟩
        cases ended with
        | inl running => exact Or.inl running
        | inr finished =>
            rw [Finished, creates, ← own, same] at finished
            exact Or.inr finished.2
  · intro pid error provisions slot wrote
    have told := settling_told reached pid
    simp only [Told, slot] at told
    have settled := told provisions
    exact stocked.smooth pid provisions (settled.refused error rfl wrote)

/-- An error that a request is answered with leaves everything as it was exactly where no call failed
after the first write; and where none ever does, organizations and citizens are complete. -/
theorem provisioning_atomic (lower : PostgresReviewerRepository.Lower) (server : Server) (job : Job)
    (provisions : job.request.provisions = true) (pid : Nat) (envs : List Env) (registry : Registry)
    (jobs : Nat → Job) (init : Registry)
    (organizations : ∀ row ∈ init.tables.organizations, Provided init row)
    (citizens : ∀ entry ∈ init.managementTokenHashes, Preferring init entry.1) (config : Pool lower)
    (reached : server.Reaches lower jobs (smoothRules lower jobs) init config) :
    ((∀ error after, alone (accessMachine lower) pid envs (server.run job)
          (World.initial registry) = (some (.error (.api error)), after) →
        Unchanged registry after.registry) ↔
      ¬ FailsLate ((alone (accessMachine lower) pid envs (server.run job)
        (World.initial registry)).2.trace pid)) ∧
    Provisioned jobs init config := by
  refine ⟨?_, provisioned_reach organizations citizens reached⟩
  have atomic := @answered_atomic lower pid registry server job provisions envs
  constructor
  · intro kept
    apply atomic.mp
    intro error answered
    exact kept error _ (Prod.ext answered rfl)
  · intro smooth error after ended
    have unchanged := atomic.mpr smooth error (by rw [ended])
    rw [ended] at unchanged
    exact unchanged

end Provisioned

namespace Scenario

def apiError (result : Option (Except HandlerError Response)) : Option ApiError :=
  match result with
  | some (.error (.api error)) => some error
  | _ => none

theorem apiError_some {result : Option (Except HandlerError Response)} {error : ApiError}
    (h : apiError result = some error) : result = some (.error (.api error)) := by
  unfold apiError at h
  split at h
  · cases h
    rfl
  · cases h

/-- The database answers so many calls and then fails. -/
def outage (calls : Nat) : List Env := List.replicate calls env ++ [{ env with fault := true }]

def onboarding : Job :=
  { fresh := Supply.of 0, headers := signedIn "admin", request := .createOrganization "Red Cross" }

def subscribing : Job :=
  { fresh := Supply.of 0, headers := []
    request := .createCitizenSubscription
      { incidentTypes := [.missingChild], minimumSeverity := .high, geography := ["Douala"]
        pushSubscription := ⟨"https://push.example.org", "key", "auth"⟩, locale := none } }

/-- The citizen wants to hear of another place, on another device. -/
def resubscribing : Job :=
  { fresh := Supply.of 1
    headers := [("management-token", Text.asciiBytes (Supply.of 0 2).display)]
    request := .updateCitizenSubscription ⟨Supply.of 0 1⟩
      { incidentTypes := [.missingChild], minimumSeverity := .low, geography := ["Buea"]
        pushSubscription := some ⟨"https://push.example.org", "other", "auth"⟩ } }

def ends (envs : List Env) (job : Job) (registry : Registry) :
    Option (Except HandlerError Response) × World :=
  alone (accessMachine lower) 0 envs (server.run job) (World.initial registry)

def enrolled : Registry := (ends (List.replicate 4 env) subscribing empty).2.registry

def administered : Registry :=
  { empty with
    tables := { Db.empty with
      memberships := [{ reviewerId := 5, role := .platformAdmin, organizationId := none }] }
    reviewers := [{ id := 5, email := "ada@example.org" }] }

theorem ends_failed {envs : List Env} {job : Job} {registry : Registry} {error : ApiError}
    (h : apiError (ends envs job registry).1 = some error) :
    ends envs job registry = (some (.error (.api error)), (ends envs job registry).2) :=
  Prod.ext (apiError_some h) rfl

/-- Where the database fails after the first write, each of the three requests is answered with an
error and leaves its first write behind: an organization without a consumer, a citizen without a
preference, and a new version of the rules. -/
theorem provisioning_left_half :
    (∃ error after, ends (outage 3) onboarding administered = (some (.error (.api error)), after) ∧
      ¬ Unchanged administered after.registry ∧
      ∃ row ∈ after.registry.tables.organizations, ¬ Provided after.registry row) ∧
    (∃ error after, ends (outage 2) subscribing empty = (some (.error (.api error)), after) ∧
      ¬ Unchanged empty after.registry ∧
      ∃ entry ∈ after.registry.managementTokenHashes, ¬ Preferring after.registry entry.1) ∧
    ∃ error after, ends (outage 3) resubscribing enrolled = (some (.error (.api error)), after) ∧
      ¬ Unchanged enrolled after.registry := by
  refine ⟨?_, ?_, ?_⟩
  · have failed : apiError (ends (outage 3) onboarding administered).1 =
        some (Organizations.persistenceFailed (Supply.of 0 4)) := by decide +kernel
    have left : (ends (outage 3) onboarding administered).2.registry.tables.organizations =
        [PostgresOrganizationRepository.newRow ⟨Supply.of 0 0⟩] := by decide +kernel
    refine ⟨_, _, ends_failed failed, ?_, _, left ▸ List.mem_cons_self, ?_⟩
    · intro unchanged
      have same := unchanged.organizations
      rw [left] at same
      cases same
    · intro provided
      obtain ⟨consumerId, owned, _⟩ := provided
      cases owned
  · have failed : apiError (ends (outage 2) subscribing empty).1 =
        some (CitizenSubscriptions.persistenceFailed (Supply.of 0 4)) := by decide +kernel
    have left : (ends (outage 2) subscribing empty).2.registry.managementTokenHashes.length = 1 ∧
        (ends (outage 2) subscribing empty).2.registry.tables.deliveryPreferences = [] := by
      decide +kernel
    obtain ⟨entry, member⟩ : ∃ entry, entry ∈
        (ends (outage 2) subscribing empty).2.registry.managementTokenHashes :=
      List.exists_mem_of_length_pos (by rw [left.1]; decide)
    refine ⟨_, _, ends_failed failed, ?_, entry, member, ?_⟩
    · intro unchanged
      rw [unchanged.managementTokenHashes] at member
      cases member
    · intro preferring
      rw [Preferring, left.2] at preferring
      cases preferring
  · have failed : apiError (ends (outage 3) resubscribing enrolled).1 =
        some (CitizenSubscriptions.persistenceFailed (Supply.of 1 4)) := by decide +kernel
    have versions : (ends (outage 3) resubscribing enrolled).2.registry.tables.subscriptions.map
          (·.subscription.version) = [2] ∧
        enrolled.tables.subscriptions.map (·.subscription.version) = [1] := by decide +kernel
    refine ⟨_, _, ends_failed failed, ?_⟩
    intro unchanged
    rw [unchanged.subscriptions, versions.2] at versions
    cases versions.1

def settingUp (pid : Nat) : Job := if pid = 0 then onboarding else subscribing

def answering (config : Pool lower) : Label Env → Bool
  | .start _ => true
  | .halt _ => false
  | .call pid env =>
      match config.slots pid with
      | .active (.call call _) =>
          match (runCall lower env call config.state.registry).1 with
          | .ok _ => true
          | .error _ => false
      | _ => true

theorem answering_sound (config : Pool lower) (label : Label Env)
    (h : answering config label = true) : (smoothRules lower settingUp).legal config label := by
  cases label with
  | start pid => trivial
  | halt pid => cases h
  | call pid env =>
      intro call next slot _ _ failure failed
      simp only [answering, slot, failed] at h
      cases h

theorem provisioning_atomic_early : ∃ config : Pool lower, ∃ error after,
    config.state.registry.tables.organizations.length = 1 ∧
    config.state.registry.managementTokenHashes.length = 1 ∧
    Provisioned settingUp administered config ∧
    ends (outage 1) onboarding administered = (some (.error (.api error)), after) ∧
    Unchanged administered after.registry := by
  have run : (play (server.pool settingUp) answering
      (runs 0 3 ++ runs 1 2 ++ [.call 0 env, .call 1 env, .call 0 env, .call 1 env, .call 0 env])
      (initially (World.initial administered) : Pool lower)).any (fun config =>
        decide (config.state.registry.tables.organizations.length = 1 ∧
          config.state.registry.managementTokenHashes.length = 1)) = true := by decide +kernel
  obtain ⟨config, arrived, counted, _⟩ := play_reaches _ _ _ answering_sound _ _ run
  have failed : apiError (ends (outage 1) onboarding administered).1 =
      some (Organizations.persistenceFailed (Supply.of 0 4)) := by decide +kernel
  have early : ((ends (outage 1) onboarding administered).2.trace 0).all
      (fun exchange => !exchange.op.effective exchange.answer) = true := by decide +kernel
  have smooth : ¬ FailsLate ((ends (outage 1) onboarding administered).2.trace 0) := by
    intro late
    obtain ⟨exchange, member, effective⟩ := late.wrote
    have silent := List.all_eq_true.mp early exchange member
    rw [effective] at silent
    cases silent
  have atomic := provisioning_atomic lower server onboarding rfl 0 (outage 1) administered settingUp
    administered (fun _ member => by cases member) (fun _ member => by cases member) config arrived
  have ended := ends_failed failed
  have counts := of_decide_eq_true counted
  exact ⟨config, _, _, counts.1, counts.2, atomic.2, ended, atomic.1.mpr smooth _ _ ended⟩

end Scenario

end SafeCameroon.Access
