import SafeCameroon.Access.AccountRuns
import SafeCameroon.Access.Owners

namespace SafeCameroon.Access

open Table Process

/-- The rules of a subscription under one version. -/
structure Edition where
  version : Nat
  rules : List SubscriptionRule
  deriving DecidableEq

def edition (subscription : Subscription) : Edition :=
  { version := subscription.version, rules := subscription.rules }

def Call.updates (id : SubscriptionId) : (call : Call) → Except Failure call.Res → Option Edition
  | .updateSubscription _ subscription _ _, .ok true =>
      if subscription.id = id then some (edition subscription) else none
  | _, _ => none

def Call.saves (id : SubscriptionId) : (call : Call) → Except Failure call.Res → Option Edition
  | .createSubscription subscription, .ok _ =>
      if subscription.id = id then some (edition subscription) else none
  | call, answer => call.updates id answer

def storedEdition (id : SubscriptionId) (registry : Registry) : Option Edition :=
  (PostgresSubscriptionRepository.findById id registry.tables).map edition

/-- Every edition that was ever saved of the subscription, the latest first. -/
def editions (init : Registry) (id : SubscriptionId) (history : List Entry) : List Edition :=
  (history.filterMap fun entry => entry.call.saves id entry.answer) ++ (storedEdition id init).toList

/-- The updates of the subscription that were answered with success, the latest first. -/
def successes (id : SubscriptionId) (history : List Entry) : List Edition :=
  history.filterMap fun entry => entry.call.updates id entry.answer

/-- A subscription starts at version 1, unless it is older than the run. -/
def firstVersion (init : Registry) (id : SubscriptionId) : Nat :=
  ((storedEdition id init).map (·.version)).getD 1

def Cancelled (id : SubscriptionId) (history : List Entry) : Prop :=
  ∃ entry ∈ history, (⟨entry.call, entry.answer⟩ : Exchange accessInterface) =
    ⟨.deleteSubscription id, .ok ()⟩

variable {lower : PostgresReviewerRepository.Lower}

section Effects

variable {env : Env} {registry after : Registry} {call : Call} {answer : Except Failure call.Res}
  {id : SubscriptionId}

theorem stored_iff (sound : Sound registry) {saved : Edition} :
    storedEdition id registry = some saved ↔
      ∃ row ∈ registry.tables.subscriptions, row.subscription.id = id ∧
        edition row.subscription = saved := by
  simp only [storedEdition, PostgresSubscriptionRepository.findById, Option.map_map]
  constructor
  · intro found
    obtain ⟨row, looked, same⟩ := Option.map_eq_some_iff.mp found
    obtain ⟨member, named⟩ := lookup_some _ _ _ _ looked
    exact ⟨row, member, named, same⟩
  · intro there
    obtain ⟨row, member, rfl, same⟩ := there
    have looked := lookup_mem (·.subscription.id) _ sound.subscriptionIds row member
    rw [looked, Option.map_some, Function.comp, same]

theorem stored_none :
    storedEdition id registry = none ↔
      id ∉ registry.tables.subscriptions.map (·.subscription.id) := by
  simp only [storedEdition, PostgresSubscriptionRepository.findById, Option.map_eq_none_iff]
  rw [lookup_none]
  constructor
  · intro absent present
    obtain ⟨row, member, same⟩ := List.mem_map.mp present
    exact absent row member same
  · intro absent row member same
    exact absent (List.mem_map.mpr ⟨row, member, same⟩)

theorem updates_effective {saved : Edition} (updated : call.updates id answer = some saved) :
    call.effective answer = true := by
  unfold Call.updates at updated
  split at updated
  · rfl
  · cases updated

theorem saves_effective {saved : Edition} (committed : call.saves id answer = some saved) :
    call.effective answer = true := by
  unfold Call.saves at committed
  split at committed
  · rfl
  · exact updates_effective committed

theorem updates_of_saves (silent : call.saves id answer = none) : call.updates id answer = none := by
  unfold Call.saves at silent
  split at silent
  · rfl
  · exact silent

theorem saves_of_updates {saved : Edition} (updated : call.updates id answer = some saved) :
    call.saves id answer = some saved := by
  unfold Call.saves
  split
  · cases updated
  · exact updated

theorem delete_stores_nothing
    (effect : Effect lower env registry (.deleteSubscription id) (.ok ()) after) :
    storedEdition id after = none := by
  refine stored_none.mpr ?_
  cases effect with
  | idle idle => cases idle
  | audited auditEvents quiet =>
      rcases quiet with ⟨_, _, _, _, _, same⟩ | ⟨_, _, _, _, same⟩ <;> cases same
  | subscriptionDeleted =>
      intro present
      obtain ⟨row, member, named⟩ := List.mem_map.mp present
      have differs := (List.mem_filter.mp member).2
      simp [named] at differs

theorem edition_cases (id : SubscriptionId) (sound : Sound registry)
    (effect : Effect lower env registry call answer after) :
    (call.saves id answer = none ∧
        (storedEdition id after = storedEdition id registry ∨ storedEdition id after = none)) ∨
      (∃ subscription, call = .createSubscription subscription ∧ subscription.id = id ∧
        call.saves id answer = some (edition subscription) ∧ call.updates id answer = none ∧
        storedEdition id registry = none ∧ storedEdition id after = some (edition subscription)) ∨
      ∃ before saved, call.updates id answer = some saved ∧
        storedEdition id registry = some before ∧ before.version + 1 = saved.version ∧
        storedEdition id after = some saved := by
  have kept := sound.effect effect
  cases effect with
  | idle idle =>
      refine Or.inl ⟨?_, Or.inl rfl⟩
      cases saved : call.saves id answer with
      | none => rfl
      | some saved =>
          rw [saves_effective saved] at idle
          cases idle
  | audited auditEvents quiet =>
      refine Or.inl ⟨?_, Or.inl rfl⟩
      rcases quiet with ⟨_, _, _, _, _, rfl⟩ | ⟨_, _, _, _, rfl⟩ <;> rfl
  | @subscriptionCreated subscription unused =>
      by_cases same : subscription.id = id
      · refine Or.inr (Or.inl ⟨subscription, rfl, same, if_pos same, rfl,
          stored_none.mpr (same ▸ unused), (stored_iff kept).mpr
            ⟨{ subscription, createdAt := env.now }, ?_, same, rfl⟩⟩)
        exact List.mem_append_right _ (List.mem_singleton.mpr rfl)
      · refine Or.inl ⟨if_neg same, Or.inl ?_⟩
        simp [storedEdition, PostgresSubscriptionRepository.findById, lookup, Registry.with,
          List.find?_append, same]
  | @subscriptionUpdated auditEventId subscription actor requestId auditEvents single =>
      by_cases same : subscription.id = id
      · have positive : 0 < registry.tables.subscriptions.countP
            (PostgresSubscriptionRepository.outdated subscription) := by omega
        obtain ⟨row, member, selected⟩ := List.countP_pos_iff.mp positive
        have chosen := selected
        simp only [PostgresSubscriptionRepository.outdated, Bool.and_eq_true,
          decide_eq_true_eq] at chosen
        refine Or.inr (Or.inr ⟨edition row.subscription, edition subscription, if_pos same,
          (stored_iff sound).mpr ⟨row, member, chosen.1.trans same, rfl⟩, chosen.2, ?_⟩)
        refine (stored_iff kept).mpr ⟨PostgresSubscriptionRepository.revised subscription row, ?_,
          chosen.1.trans same, rfl⟩
        exact (mem_updateWhere _ _ _ _).mpr ⟨row, member, Or.inl ⟨selected, rfl⟩⟩
      · refine Or.inl ⟨if_neg same, Or.inl ?_⟩
        have unchanged := filter_updateWhere (fun row : SubscriptionRow => row.subscription.id = id)
          (PostgresSubscriptionRepository.outdated subscription)
          (PostgresSubscriptionRepository.revised subscription) registry.tables.subscriptions
          (fun _ => rfl) ?_
        · simp only [storedEdition, PostgresSubscriptionRepository.findById, lookup,
            Registry.with, ← List.head?_filter, unchanged]
        · intro row _ theirs
          have other : ¬ row.subscription.id = subscription.id :=
            fun alike => same (alike.symm.trans (of_decide_eq_true theirs))
          simp [PostgresSubscriptionRepository.outdated, other]
  | @subscriptionDeleted other =>
      refine Or.inl ⟨rfl, ?_⟩
      by_cases same : other = id
      · subst same
        have deleted : Effect lower env registry (.deleteSubscription other) (.ok ()) _ :=
          .subscriptionDeleted
        exact Or.inr (delete_stores_nothing deleted)
      · refine Or.inl ?_
        simp only [storedEdition, PostgresSubscriptionRepository.findById, lookup, Registry.with,
          ← List.head?_filter, List.filter_filter]
        congr 3
        refine List.filter_congr ?_
        intro row _
        by_cases theirs : row.subscription.id = id
        · simp [theirs, Ne.symm same]
        · simp [theirs]
  | _ => exact Or.inl ⟨rfl, Or.inl rfl⟩

end Effects

/-- What a request has to have learnt before it makes a call that touches a subscription. -/
def Versioned (past : Past) : Call → Prop
  | .createSubscription subscription => subscription.version = 1
  | .updateSubscription _ subscription _ _ => ∃ before, SubscriptionRead past before ∧
      before.updateRules subscription.rules = .ok subscription
  | _ => True

/-- The editions of every subscription and how the store and the requests stand to them. -/
structure Edited (init : Registry) (world : World) : Prop where
  sound : Sound world.registry
  stored : ∀ id saved, storedEdition id world.registry = some saved →
    (editions init id world.history).head? = some saved
  versions : ∀ id, ((editions init id world.history).map (·.version)).reverse =
    List.range' (firstVersion init id) (editions init id world.history).length
  counted : ∀ id, editions init id world.history ≠ [] →
    (editions init id world.history).length = (successes id world.history).length + 1
  seen : ∀ id, editions init id world.history ≠ [] → storedEdition id world.registry ≠ none ∨
    ∃ entry ∈ world.history, storedEdition id entry.before ≠ none
  cancelled : ∀ id, Cancelled id world.history → storedEdition id world.registry = none ∧
    editions init id world.history ≠ []
  read : ∀ pid subscription, SubscriptionRead (world.trace pid) subscription →
    edition subscription ∈ editions init subscription.id world.history
  named : ∀ pid id subscription,
    Known (world.trace pid) (.findSubscription id) (.ok (some subscription)) → subscription.id = id

section History

variable {init : Registry} {id : SubscriptionId}

@[simp] theorem editions_cons (entry : Entry) (history : List Entry) :
    editions init id (entry :: history) =
      (entry.call.saves id entry.answer).toList ++ editions init id history := by
  cases saved : entry.call.saves id entry.answer <;> simp [editions, saved]

@[simp] theorem successes_cons (entry : Entry) (history : List Entry) :
    successes id (entry :: history) =
      (entry.call.updates id entry.answer).toList ++ successes id history := by
  cases updated : entry.call.updates id entry.answer <;> simp [successes, updated]

/-- Where nothing was ever saved, nothing was updated, and the run did not begin with anything. -/
theorem nothing_saved {history : List Entry} (empty : editions init id history = []) :
    successes id history = [] ∧ storedEdition id init = none := by
  induction history with
  | nil => exact ⟨rfl, by simpa [editions] using empty⟩
  | cons entry history ih =>
      rw [editions_cons, List.append_eq_nil_iff] at empty
      obtain ⟨earlier, older⟩ := ih empty.2
      have silent : entry.call.saves id entry.answer = none := by simpa using empty.1
      rw [successes_cons, earlier, updates_of_saves silent]
      exact ⟨rfl, older⟩

end History

section Execute

variable {init : Registry} {world : World} {caller : Nat} {call : Call} {env : Env}
  {server : Server} {jobs : Nat → Job}

theorem Edited.initial (sound : Sound init) : Edited init (World.initial init) where
  sound := sound
  stored := fun id saved there => by
    have older : storedEdition id init = some saved := there
    simp [editions, World.initial, older]
  versions := fun id => by
    cases there : storedEdition id init <;> simp [editions, World.initial, firstVersion, there]
  counted := fun id nonempty => by
    cases there : storedEdition id init with
    | none => simp [editions, World.initial, there] at nonempty
    | some saved => simp [editions, successes, World.initial, there]
  seen := fun id nonempty => Or.inl fun absent => by
    have older : storedEdition id init = none := absent
    simp [editions, World.initial, older] at nonempty
  cancelled := fun _ cancelled => by
    obtain ⟨_, member, _⟩ := cancelled
    cases member
  read := fun _ _ read => by
    obtain ⟨_, known⟩ := read
    cases known
  named := fun _ _ _ known => by cases known

theorem Edited.newborn (edited : Edited init world) {subscription : Subscription}
    (fresh : freshSubscription world (.createSubscription subscription))
    (absent : storedEdition subscription.id world.registry = none) :
    editions init subscription.id world.history = [] := by
  by_contra nonempty
  rcases edited.seen _ nonempty with present | ⟨entry, member, present⟩
  · exact present absent
  · exact present (stored_none.mpr (fresh entry member))

theorem Edited.latest (edited : Edited init world) {id : SubscriptionId} {saved : Edition}
    (stored : storedEdition id world.registry = some saved) :
    saved.version + 1 =
      firstVersion init id + (editions init id world.history).length := by
  have first := edited.stored id saved stored
  have versions := edited.versions id
  cases all : editions init id world.history with
  | nil => simp [all] at first
  | cons latest earlier =>
      rw [all, List.head?_cons, Option.some.injEq] at first
      rw [all, List.length_cons, List.range'_1_concat, List.map_cons, List.reverse_cons] at versions
      have last := (List.append_inj' versions rfl).2
      simp only [List.cons.injEq, and_true] at last
      rw [← first, last, List.length_cons]
      omega

theorem Edited.closed (lower : PostgresReviewerRepository.Lower) (env : Env)
    (edited : Edited init world) (plain : call.Plain)
    (fresh : freshSubscription world call) {id : SubscriptionId}
    (gone : storedEdition id world.registry = none)
    (nonempty : editions init id world.history ≠ []) :
    call.saves id (runCall lower env call world.registry).1 = none ∧
      storedEdition id (runCall lower env call world.registry).2 = none := by
  have effect := runCall_effect lower env world.registry call plain
  rcases edition_cases id edited.sound effect with ⟨silent, same | absent⟩ |
    ⟨subscription, rfl, rfl, _, _, _, _⟩ | ⟨before, saved, _, stored, _, _⟩
  · exact ⟨silent, same.trans gone⟩
  · exact ⟨silent, absent⟩
  · exact absurd (edited.newborn fresh gone) nonempty
  · rw [gone] at stored
    cases stored

theorem Edited.stored_next (lower : PostgresReviewerRepository.Lower) (env : Env)
    (edited : Edited init world) (plain : call.Plain)
    (fresh : freshSubscription world call) (versioned : Versioned (world.trace caller) call)
    (id : SubscriptionId) :
    (∀ saved, storedEdition id (runCall lower env call world.registry).2 = some saved →
      (editions init id (world.execute lower caller call env).2.history).head? = some saved) ∧
    ((editions init id (world.execute lower caller call env).2.history).map (·.version)).reverse =
      List.range' (firstVersion init id)
        (editions init id (world.execute lower caller call env).2.history).length ∧
    (editions init id (world.execute lower caller call env).2.history ≠ [] →
      (editions init id (world.execute lower caller call env).2.history).length =
        (successes id (world.execute lower caller call env).2.history).length + 1) := by
  have effect := runCall_effect lower env world.registry call plain
  simp only [World.execute_history, editions_cons, successes_cons]
  rcases edition_cases id edited.sound effect with ⟨silent, same | gone⟩ |
    ⟨subscription, rfl, rfl, created, quiet, absent, stored⟩ |
    ⟨before, saved, updated, stored, next, now⟩
  · rw [silent, updates_of_saves silent, same]
    exact ⟨edited.stored id, edited.versions id, edited.counted id⟩
  · rw [silent, updates_of_saves silent, gone]
    refine ⟨?_, edited.versions id, edited.counted id⟩
    intro saved there
    cases there
  · have empty := edited.newborn fresh absent
    obtain ⟨unchanged, older⟩ := nothing_saved empty
    have first : subscription.version = 1 := versioned
    rw [created, quiet, stored, empty, unchanged]
    refine ⟨fun _ there => there, ?_, fun _ => rfl⟩
    simp [firstVersion, older, edition, first]
  · have latest := edited.latest stored
    have nonempty : editions init id world.history ≠ [] := by
      intro empty
      have first := edited.stored id before stored
      rw [empty] at first
      cases first
    rw [saves_of_updates updated, updated, now]
    refine ⟨fun _ there => there, ?_, fun _ => ?_⟩
    · simp only [Option.toList_some, List.singleton_append, List.map_cons, List.reverse_cons,
        List.length_cons]
      rw [List.range'_1_concat, edited.versions id, ← latest, next]
    · simp only [Option.toList_some, List.singleton_append, List.length_cons, edited.counted id nonempty]

theorem Edited.execute (edited : Edited init world) (plain : call.Plain)
    (fresh : freshSubscription world call)
    (proper : ConsumersProper server (jobs caller) (world.trace caller) call)
    (versioned : Versioned (world.trace caller) call) :
    Edited init (world.execute lower caller call env).2 := by
  have effect := runCall_effect lower env world.registry call plain
  have next := edited.stored_next lower env plain fresh versioned
  constructor
  · exact edited.sound.effect effect
  · exact fun id => (next id).1
  · exact fun id => (next id).2.1
  · exact fun id => (next id).2.2
  · intro id nonempty
    by_cases present : storedEdition id world.registry = none
    · rcases edition_cases id edited.sound effect with ⟨silent, _⟩ |
        ⟨subscription, _, _, _, _, _, stored⟩ | ⟨before, saved, _, stored, _, _⟩
      · rw [World.execute_history, editions_cons, silent] at nonempty
        rcases edited.seen id nonempty with now | ⟨entry, member, before⟩
        · exact absurd present now
        · exact Or.inr ⟨entry, List.mem_cons_of_mem _ member, before⟩
      · rw [World.execute_registry, stored]
        exact Or.inl (Option.some_ne_none _)
      · rw [present] at stored
        cases stored
    · exact Or.inr ⟨_, List.mem_cons_self, present⟩
  · intro id cancelled
    obtain ⟨entry, member, made⟩ := cancelled
    rw [World.execute_history, editions_cons]
    rcases List.mem_cons.mp member with rfl | earlier
    · obtain ⟨rfl, answered⟩ := Exchange.mk.inj made
      obtain ⟨before, read, rfl, _⟩ := proper
      have saved := edited.read caller before read
      refine ⟨delete_stores_nothing (effect.at made.symm), ?_⟩
      exact List.ne_nil_of_mem (List.mem_append_right _ saved)
    · obtain ⟨gone, nonempty⟩ := edited.cancelled id ⟨entry, earlier, made⟩
      have closed := edited.closed lower env plain fresh gone nonempty
      exact ⟨closed.2, fun empty => nonempty (List.append_eq_nil_iff.mp empty).2⟩
  · intro pid subscription read
    obtain ⟨id, known⟩ := read
    rw [World.execute_history, editions_cons]
    refine List.mem_append_right _ ?_
    rcases known_execute known with ⟨_, made⟩ | earlier
    · obtain ⟨rfl, answered⟩ := Exchange.mk.inj made
      obtain ⟨row, stored, rfl, _⟩ := findSubscription_read (eq_of_heq answered).symm
      have saved := (stored_iff edited.sound).mpr ⟨row, stored, rfl, rfl⟩
      exact List.mem_of_mem_head? (edited.stored _ _ saved)
    · exact edited.read pid subscription ⟨id, earlier⟩
  · intro pid id subscription known
    rcases known_execute known with ⟨_, made⟩ | earlier
    · obtain ⟨rfl, answered⟩ := Exchange.mk.inj made
      obtain ⟨_, _, _, same⟩ := findSubscription_read (eq_of_heq answered).symm
      exact same
    · exact edited.named pid id subscription earlier

end Execute

end SafeCameroon.Access
