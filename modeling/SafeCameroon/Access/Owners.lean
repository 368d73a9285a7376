import SafeCameroon.Access.AccountRuns
import SafeCameroon.Access.ConsumersHonest

namespace SafeCameroon.Access

open Table Process

variable {lower : PostgresReviewerRepository.Lower}

def Linked (registry : Registry) (organizationId : OrganizationId) (consumerId : ConsumerId) : Prop :=
  ∃ row ∈ registry.tables.organizations, row.id = organizationId ∧ row.consumerId = some consumerId

def HasToken (registry : Registry) (consumerId : ConsumerId) : Prop :=
  consumerId ∈ registry.managementTokenHashes.map (·.1)

section Effects

variable {env : Env} {registry after : Registry} {call : Call} {answer : Except Failure call.Res}

theorem updated_came {id : OrganizationId} {change : OrganizationRow → OrganizationRow}
    {organizations : List OrganizationRow} {row : OrganizationRow}
    (member : row ∈ updateWhere (fun row => decide (row.id = id)) change organizations) :
    (∃ old ∈ organizations, old.id = id ∧ row = change old) ∨ row ∈ organizations := by
  obtain ⟨old, stored, ⟨chosen, rfl⟩ | ⟨_, rfl⟩⟩ := (mem_updateWhere _ _ _ _).mp member
  · exact Or.inl ⟨old, stored, of_decide_eq_true chosen, rfl⟩
  · exact Or.inr stored

theorem updated_stays (id : OrganizationId) (change : OrganizationRow → OrganizationRow)
    {organizations : List OrganizationRow} {row : OrganizationRow} (member : row ∈ organizations) :
    (row.id = id ∧ change row ∈ updateWhere (fun row => decide (row.id = id)) change organizations) ∨
      row ∈ updateWhere (fun row => decide (row.id = id)) change organizations := by
  by_cases chosen : row.id = id
  · exact Or.inl ⟨chosen, (mem_updateWhere _ _ _ _).mpr
      ⟨row, member, Or.inl ⟨decide_eq_true chosen, rfl⟩⟩⟩
  · exact Or.inr ((mem_updateWhere _ _ _ _).mpr
      ⟨row, member, Or.inr ⟨decide_eq_false chosen, rfl⟩⟩)

theorem organization_came (effect : Effect lower env registry call answer after)
    {row : OrganizationRow} (member : row ∈ after.tables.organizations) :
    (∃ old ∈ registry.tables.organizations, row.id = old.id ∧ row.consumerId = old.consumerId) ∨
      ((⟨call, answer⟩ : Exchange accessInterface) = ⟨.createOrganization row.id, .ok ()⟩ ∧
        row.consumerId = none) ∨
      ∃ consumerId, (⟨call, answer⟩ : Exchange accessInterface) =
        ⟨.setConsumerId row.id consumerId, .ok ()⟩ ∧ row.consumerId = some consumerId := by
  cases effect with
  | @organizationCreated id unused =>
      rcases List.mem_append.mp member with earlier | new
      · exact Or.inl ⟨row, earlier, rfl, rfl⟩
      · rw [List.mem_singleton.mp new]
        exact Or.inr (Or.inl ⟨rfl, rfl⟩)
  | @activeSet id isActive =>
      rcases updated_came member with ⟨old, stored, _, rfl⟩ | stored
      · exact Or.inl ⟨old, stored, rfl, rfl⟩
      · exact Or.inl ⟨row, stored, rfl, rfl⟩
  | @linked id consumerId known free =>
      rcases updated_came member with ⟨old, stored, rfl, rfl⟩ | stored
      · exact Or.inr (Or.inr ⟨consumerId, rfl, rfl⟩)
      · exact Or.inl ⟨row, stored, rfl, rfl⟩
  | _ => exact Or.inl ⟨row, member, rfl, rfl⟩

theorem organization_stays (effect : Effect lower env registry call answer after)
    {row : OrganizationRow} (member : row ∈ registry.tables.organizations) :
    ∃ now ∈ after.tables.organizations, now.id = row.id ∧
      (now.consumerId = row.consumerId ∨ ∃ consumerId, (⟨call, answer⟩ : Exchange accessInterface) =
        ⟨.setConsumerId row.id consumerId, .ok ()⟩) := by
  cases effect with
  | organizationCreated unused =>
      exact ⟨row, List.mem_append_left _ member, rfl, Or.inl rfl⟩
  | @activeSet id isActive =>
      rcases updated_stays id (fun row => { row with isActive }) member with ⟨_, stored⟩ | stored
      · exact ⟨_, stored, rfl, Or.inl rfl⟩
      · exact ⟨row, stored, rfl, Or.inl rfl⟩
  | @linked id consumerId known free =>
      rcases updated_stays id (fun row => { row with consumerId := some consumerId }) member with
        ⟨rfl, stored⟩ | stored
      · exact ⟨_, stored, rfl, Or.inr ⟨consumerId, rfl⟩⟩
      · exact ⟨row, stored, rfl, Or.inl rfl⟩
  | _ => exact ⟨row, member, rfl, Or.inl rfl⟩

theorem organization_new {id : OrganizationId}
    (effect : Effect lower env registry (.createOrganization id) (.ok ()) after) :
    id ∉ registry.tables.organizations.map (·.id) ∧ id ∈ after.tables.organizations.map (·.id) := by
  cases effect with
  | idle idle => cases idle
  | audited auditEvents quiet =>
      rcases quiet with ⟨_, _, _, _, _, same⟩ | ⟨_, _, _, _, same⟩ <;> cases same
  | organizationCreated unused =>
      refine ⟨unused, ?_⟩
      simp [Registry.with, PostgresOrganizationRepository.newRow]

theorem consumers_grow (effect : Effect lower env registry call answer after) :
    registry.tables.consumers <+: after.tables.consumers := by
  cases effect with
  | consumerCreated unused => exact List.prefix_append _ _
  | citizenCreated unused => exact List.prefix_append _ _
  | _ => exact List.prefix_refl _

theorem token_came (effect : Effect lower env registry call answer after) {consumerId : ConsumerId}
    (has : HasToken after consumerId) :
    HasToken registry consumerId ∨ consumerId ∉ registry.tables.consumers.map (·.id) := by
  cases effect with
  | citizenCreated unused =>
      rw [HasToken, List.map_append] at has
      rcases List.mem_append.mp has with earlier | new
      · exact Or.inl earlier
      · rw [List.mem_singleton.mp new]
        exact Or.inr unused
  | _ => exact Or.inl has

theorem consumer_new {consumer : Consumer}
    (effect : Effect lower env registry (.createConsumer consumer) (.ok ()) after) :
    consumer.id ∉ registry.tables.consumers.map (·.id) ∧
      consumer.id ∈ after.tables.consumers.map (·.id) ∧
      after.managementTokenHashes = registry.managementTokenHashes := by
  cases effect with
  | idle idle => cases idle
  | audited auditEvents quiet =>
      rcases quiet with ⟨_, _, _, _, _, same⟩ | ⟨_, _, _, _, same⟩ <;> cases same
  | consumerCreated unused =>
      refine ⟨unused, ?_, rfl⟩
      simp [Registry.with]

theorem citizen_new {consumer : Consumer} {managementTokenHash : Bytes}
    (effect : Effect lower env registry
      (.createConsumerWithManagementToken consumer managementTokenHash) (.ok ()) after) :
    consumer.id ∉ registry.tables.consumers.map (·.id) := by
  cases effect with
  | idle idle => cases idle
  | audited auditEvents quiet =>
      rcases quiet with ⟨_, _, _, _, _, same⟩ | ⟨_, _, _, _, same⟩ <;> cases same
  | citizenCreated unused => exact unused

theorem subscription_came (effect : Effect lower env registry call answer after)
    {row : SubscriptionRow} (member : row ∈ after.tables.subscriptions) :
    (∃ old ∈ registry.tables.subscriptions, row.subscription.id = old.subscription.id ∧
        row.subscription.consumerId = old.subscription.consumerId) ∨
      ((⟨call, answer⟩ : Exchange accessInterface) =
          ⟨.createSubscription row.subscription, .ok ()⟩ ∧
        row.subscription.id ∉ registry.tables.subscriptions.map (·.subscription.id)) := by
  cases effect with
  | @subscriptionCreated subscription unused =>
      rcases List.mem_append.mp member with earlier | new
      · exact Or.inl ⟨row, earlier, rfl, rfl⟩
      · rw [List.mem_singleton.mp new]
        exact Or.inr ⟨rfl, unused⟩
  | subscriptionUpdated auditEvents single =>
      obtain ⟨old, stored, ⟨_, rfl⟩ | ⟨_, rfl⟩⟩ := (mem_updateWhere _ _ _ _).mp member
      · exact Or.inl ⟨old, stored, rfl, rfl⟩
      · exact Or.inl ⟨_, stored, rfl, rfl⟩
  | subscriptionDeleted => exact Or.inl ⟨row, (List.mem_filter.mp member).1, rfl, rfl⟩
  | _ => exact Or.inl ⟨row, member, rfl, rfl⟩

end Effects

theorem Effect.at {env : Env} {registry after : Registry} {call other : Call}
    {answer : Except Failure call.Res} {reply : Except Failure other.Res}
    (effect : Effect lower env registry call answer after)
    (same : (⟨other, reply⟩ : Exchange accessInterface) = ⟨call, answer⟩) :
    Effect lower env registry other reply after := by
  cases same
  exact effect

section Answers

variable {env : Env} {registry : Registry}

theorem findOrganizationIdByConsumerId_read {consumerId : ConsumerId} {owner : Option OrganizationId}
    (answered : (runCall lower env (.findOrganizationIdByConsumerId consumerId) registry).1 =
      .ok owner) :
    owner = PostgresOrganizationRepository.findOrganizationIdByConsumerId consumerId
      registry.tables := by
  have read := query_ok env.fault Failure.database (fun registry : Registry =>
    .ok (PostgresOrganizationRepository.findOrganizationIdByConsumerId consumerId registry.tables))
    registry owner answered
  exact (Except.ok.inj read).symm

theorem owner_of_linked (sound : Sound registry) {organizationId : OrganizationId}
    {consumerId : ConsumerId} (linked : Linked registry organizationId consumerId) :
    PostgresOrganizationRepository.findOrganizationIdByConsumerId consumerId registry.tables =
      some organizationId := by
  obtain ⟨row, member, rfl, owns⟩ := linked
  simp only [PostgresOrganizationRepository.findOrganizationIdByConsumerId]
  cases found : registry.tables.organizations.find? fun row => row.consumerId = some consumerId with
  | none =>
      have missing := List.find?_eq_none.mp found row member
      exact absurd (decide_eq_true owns) missing
  | some other =>
      have alsoOwns : other.consumerId = some consumerId := by simpa using List.find?_some found
      have same := sound.owners.once other (List.mem_of_find?_eq_some found) row member consumerId
        alsoOwns owns
      simp [same]

theorem findOrganization_read {id : OrganizationId} {organization : Option Organization}
    (answered : (runCall lower env (.incident (.findOrganization id)) registry).1 =
      .ok organization) :
    organization = PostgresOrganizationRepository.findById id registry.tables := by
  have read := query_ok env.fault Failure.database
    (fun db => .ok (PostgresOrganizationRepository.findById id db)) registry.tables organization
    answered
  exact (Except.ok.inj read).symm

theorem findOrganization_stored {id : OrganizationId} {organization : Organization}
    (read : PostgresOrganizationRepository.findById id registry.tables = some organization) :
    ∃ row ∈ registry.tables.organizations, row.id = id ∧ row.consumerId = organization.consumerId := by
  simp only [PostgresOrganizationRepository.findById] at read
  cases found : lookup (·.id) id registry.tables.organizations with
  | none => simp [found] at read
  | some row =>
      obtain ⟨member, same⟩ := lookup_some _ _ _ _ found
      rw [found, Option.map_some, Option.some.injEq] at read
      exact ⟨row, member, same, by rw [← read]⟩

theorem findOrganization_present {id : OrganizationId}
    (present : id ∈ registry.tables.organizations.map (·.id)) :
    ∃ organization, PostgresOrganizationRepository.findById id registry.tables = some organization := by
  obtain ⟨row, member, rfl⟩ := List.mem_map.mp present
  simp only [PostgresOrganizationRepository.findById]
  cases found : lookup (·.id) row.id registry.tables.organizations with
  | none => exact absurd rfl ((lookup_none _ _ _).mp found row member)
  | some other => exact ⟨_, rfl⟩

theorem findSubscription_read {id : SubscriptionId} {subscription : Subscription}
    (answered : (runCall lower env (.findSubscription id) registry).1 = .ok (some subscription)) :
    ∃ row ∈ registry.tables.subscriptions, row.subscription = subscription ∧
      subscription.id = id := by
  have read := Except.ok.inj (query_ok env.fault Failure.database (fun registry : Registry =>
    .ok (PostgresSubscriptionRepository.findById id registry.tables)) registry _ answered)
  simp only [PostgresSubscriptionRepository.findById] at read
  cases found : lookup (·.subscription.id) id registry.tables.subscriptions with
  | none => simp [found] at read
  | some row =>
      obtain ⟨member, same⟩ := lookup_some _ _ _ _ found
      rw [found, Option.map_some, Option.some.injEq] at read
      exact ⟨row, member, read, by rw [← read, same]⟩

theorem findSubscriptionsByConsumer_read {consumerId : ConsumerId} {shown : List Subscription}
    (answered : (runCall lower env (.incident (.findSubscriptionsByConsumer consumerId)) registry).1 =
      .ok shown) : ∀ subscription ∈ shown, subscription.consumerId = consumerId := by
  have read := Except.ok.inj (query_ok env.fault Failure.database (fun db =>
    .ok (PostgresSubscriptionRepository.findByConsumer env.tie consumerId db)) registry.tables shown
    answered)
  intro subscription member
  rw [← read] at member
  obtain ⟨row, stored, rfl⟩ := List.mem_map.mp member
  have kept := (mem_orderBy _ _ _ _).mp stored
  simpa using (List.mem_filter.mp kept).2

theorem managementTokenHash_read {consumerId : ConsumerId} {storedHash : Bytes}
    (answered : (runCall lower env (.managementTokenHash consumerId) registry).1 =
      .ok (some storedHash)) : HasToken registry consumerId := by
  have read := Except.ok.inj (query_ok env.fault Failure.database (fun registry =>
    .ok (PostgresConsumerRepository.managementTokenHash consumerId registry)) registry _ answered)
  simp only [PostgresConsumerRepository.managementTokenHash] at read
  cases found : lookup (·.1) consumerId registry.managementTokenHashes with
  | none => simp [found] at read
  | some entry =>
      obtain ⟨member, same⟩ := lookup_some _ _ _ _ found
      exact List.mem_map.mpr ⟨entry, member, same⟩

end Answers

def SameConsumers (before after : Registry) : Prop :=
  ∀ old ∈ before.tables.subscriptions, ∀ now ∈ after.tables.subscriptions,
    now.subscription.id = old.subscription.id →
      now.subscription.consumerId = old.subscription.consumerId

/-- Who owns what, and what the requests remember of it. -/
structure Owned (world : World) : Prop where
  sound : Sound world.registry
  linkedTokenless : ∀ organizationId consumerId,
    Linked world.registry organizationId consumerId → ¬ HasToken world.registry consumerId
  createdOnce : ∀ pid other id, Known (world.trace pid) (.createOrganization id) (.ok ()) →
    Known (world.trace other) (.createOrganization id) (.ok ()) → pid = other
  createdThere : ∀ pid id, Known (world.trace pid) (.createOrganization id) (.ok ()) →
    id ∈ world.registry.tables.organizations.map (·.id)
  createdUnlinked : ∀ pid id consumerId,
    Known (world.trace pid) (.createOrganization id) (.ok ()) →
    Linked world.registry id consumerId →
      ∃ another, Known (world.trace pid) (.setConsumerId id another) (.ok ())
  createdTokenless : ∀ pid consumer, Known (world.trace pid) (.createConsumer consumer) (.ok ()) →
    consumer.id ∈ world.registry.tables.consumers.map (·.id) ∧
      ¬ HasToken world.registry consumer.id
  sameConsumers : ∀ entry ∈ world.history, SameConsumers entry.before world.registry
  subscriptionsRead : ∀ pid id subscription,
    Known (world.trace pid) (.findSubscription id) (.ok (some subscription)) →
    ∃ entry ∈ world.history, ∃ row ∈ entry.before.tables.subscriptions,
      row.subscription = subscription
  listsRead : ∀ pid consumerId shown,
    Known (world.trace pid) (.incident (.findSubscriptionsByConsumer consumerId)) (.ok shown) →
    ∀ subscription ∈ shown, subscription.consumerId = consumerId

theorem Owned.initial {init : Registry} (sound : Sound init)
    (tokenless : ∀ organizationId consumerId, Linked init organizationId consumerId →
      ¬ HasToken init consumerId) : Owned (World.initial init) where
  sound := sound
  linkedTokenless := tokenless
  createdOnce := fun _ _ _ known => by cases known
  createdThere := fun _ _ known => by cases known
  createdUnlinked := fun _ _ _ known => by cases known
  createdTokenless := fun _ _ known => by cases known
  sameConsumers := fun _ member => by cases member
  subscriptionsRead := fun _ _ _ known => by cases known
  listsRead := fun _ _ _ known => by cases known

/-- A new subscription has an identifier that none had before. -/
def freshSubscription (world : World) : Call → Prop
  | .createSubscription subscription => ∀ entry ∈ world.history,
      subscription.id ∉ entry.before.tables.subscriptions.map (·.subscription.id)
  | _ => True

/-- Identifiers of subscriptions are drawn at random: none comes twice. -/
def freshSubscriptionRules (lower : PostgresReviewerRepository.Lower) :
    Rules (accessMachine lower) where
  mayCall := fun _ call _ world => freshSubscription world call
  mayHalt := fun _ _ _ => True

section Execute

variable {world : World} {caller : Nat} {call : Call} {env : Env}

theorem sameConsumers_next (sound : Sound world.registry)
    (effect : Effect lower env world.registry call (runCall lower env call world.registry).1
      (runCall lower env call world.registry).2) :
    SameConsumers world.registry (runCall lower env call world.registry).2 := by
  intro old stored now member same
  rcases subscription_came effect member with ⟨earlier, also, sameId, sameConsumer⟩ | ⟨_, unused⟩
  · have one := eq_of_key (·.subscription.id) _ sound.subscriptionIds earlier old also stored
      (sameId.symm.trans same)
    rw [sameConsumer, one]
  · exact absurd (List.mem_map.mpr ⟨old, stored, same.symm⟩) unused

theorem sameConsumers_trans {before : Registry}
    (same : SameConsumers before world.registry) (effect : Effect lower env world.registry call
      (runCall lower env call world.registry).1 (runCall lower env call world.registry).2)
    (fresh : ∀ subscription, call = .createSubscription subscription →
      subscription.id ∉ before.tables.subscriptions.map (·.subscription.id)) :
    SameConsumers before (runCall lower env call world.registry).2 := by
  intro old stored now member sameId
  rcases subscription_came effect member with ⟨earlier, also, theirs, consumers⟩ | ⟨made, _⟩
  · rw [consumers]
    exact same old stored earlier also (theirs.symm.trans sameId)
  · have called : call = .createSubscription now.subscription := congrArg Exchange.op made
    exact absurd (List.mem_map.mpr ⟨old, stored, sameId.symm⟩) (fresh _ called)

theorem tokenless_stays {consumerId : ConsumerId}
    (effect : Effect lower env world.registry call (runCall lower env call world.registry).1
      (runCall lower env call world.registry).2)
    (known : consumerId ∈ world.registry.tables.consumers.map (·.id))
    (tokenless : ¬ HasToken world.registry consumerId) :
    ¬ HasToken (runCall lower env call world.registry).2 consumerId := by
  intro has
  rcases token_came effect has with earlier | unknown
  · exact tokenless earlier
  · exact unknown known

theorem linked_came {organizationId : OrganizationId} {consumerId : ConsumerId}
    (effect : Effect lower env world.registry call (runCall lower env call world.registry).1
      (runCall lower env call world.registry).2)
    (linked : Linked (runCall lower env call world.registry).2 organizationId consumerId) :
    Linked world.registry organizationId consumerId ∨
      (⟨.setConsumerId organizationId consumerId, .ok ()⟩ : Exchange accessInterface) =
        ⟨call, (runCall lower env call world.registry).1⟩ := by
  obtain ⟨row, member, rfl, owns⟩ := linked
  rcases organization_came effect member with ⟨old, stored, sameId, sameConsumer⟩ |
    ⟨_, unlinked⟩ | ⟨another, made, linksTo⟩
  · exact Or.inl ⟨old, stored, sameId.symm, sameConsumer ▸ owns⟩
  · rw [unlinked] at owns
    cases owns
  · rw [linksTo, Option.some.injEq] at owns
    exact Or.inr (owns ▸ made.symm)

variable {server : Server} {jobs : Nat → Job}

theorem Owned.execute (owned : Owned world) (plain : call.Plain) (fresh : freshSubscription world call)
    (proper : ConsumersProper server (jobs caller) (world.trace caller) call) :
    Owned (world.execute lower caller call env).2 := by
  have effect := runCall_effect lower env world.registry call plain
  have grows := fun pid => trace_grows lower pid caller call env world
  have consumersKept := (consumers_grow effect).subset
  have organizationsKept : ∀ id, id ∈ world.registry.tables.organizations.map (·.id) →
      id ∈ (runCall lower env call world.registry).2.tables.organizations.map (·.id) := by
    intro id member
    obtain ⟨row, stored, rfl⟩ := List.mem_map.mp member
    obtain ⟨now, there, same, _⟩ := organization_stays effect stored
    exact List.mem_map.mpr ⟨now, there, same⟩
  have createdNow : ∀ pid id, Known ((world.execute lower caller call env).2.trace pid)
      (.createOrganization id) (.ok ()) → (pid = caller ∧
        id ∉ world.registry.tables.organizations.map (·.id) ∧
        id ∈ (runCall lower env call world.registry).2.tables.organizations.map (·.id) ∧
        (⟨.createOrganization id, .ok ()⟩ : Exchange accessInterface) =
          ⟨call, (runCall lower env call world.registry).1⟩) ∨
      Known (world.trace pid) (.createOrganization id) (.ok ()) := by
    intro pid id known
    rcases known_execute known with ⟨mine, made⟩ | earlier
    · obtain ⟨unused, there⟩ := organization_new (effect.at made)
      exact Or.inl ⟨mine, unused, there, made⟩
    · exact Or.inr earlier
  constructor
  · exact owned.sound.effect effect
  · intro organizationId consumerId linked
    rcases linked_came effect linked with before | made
    · have tokenless := owned.linkedTokenless organizationId consumerId before
      obtain ⟨row, member, _, owns⟩ := before
      exact tokenless_stays effect (owned.sound.owners.known row member consumerId owns) tokenless
    · have called : call = .setConsumerId organizationId consumerId :=
        (congrArg Exchange.op made).symm
      rw [called] at proper
      obtain ⟨consumer, rfl, created⟩ := proper.2.1
      obtain ⟨known, tokenless⟩ := owned.createdTokenless caller consumer created
      exact tokenless_stays effect known tokenless
  · intro pid other id known also
    rcases createdNow pid id known with ⟨mine, unused, _, _⟩ | earlier
    · rcases createdNow other id also with ⟨theirs, _, _, _⟩ | before
      · rw [mine, theirs]
      · exact absurd (owned.createdThere other id before) unused
    · rcases createdNow other id also with ⟨_, unused, _, _⟩ | before
      · exact absurd (owned.createdThere pid id earlier) unused
      · exact owned.createdOnce pid other id earlier before
  · intro pid id known
    rcases createdNow pid id known with ⟨_, _, there, _⟩ | earlier
    · exact there
    · exact organizationsKept id (owned.createdThere pid id earlier)
  · intro pid id consumerId known linked
    rcases linked_came effect linked with before | made
    · rcases createdNow pid id known with ⟨_, unused, _, _⟩ | earlier
      · obtain ⟨row, member, same, _⟩ := before
        exact absurd (List.mem_map.mpr ⟨row, member, same⟩) unused
      · obtain ⟨another, set⟩ := owned.createdUnlinked pid id consumerId earlier before
        exact ⟨another, set.mono (grows pid)⟩
    · have called : call = .setConsumerId id consumerId := (congrArg Exchange.op made).symm
      have created : Known (world.trace caller) (.createOrganization id) (.ok ()) := by
        rw [called] at proper
        exact proper.1
      have mine : pid = caller := by
        rcases createdNow pid id known with ⟨mine, _⟩ | earlier
        · exact mine
        · exact owned.createdOnce pid caller id earlier created
      have latest := known_latest lower caller call env world
      rw [Known, ← made] at latest
      exact ⟨consumerId, mine ▸ latest⟩
  · intro pid consumer known
    rcases known_execute known with ⟨_, made⟩ | earlier
    · obtain ⟨unused, there, same⟩ := consumer_new (effect.at made)
      refine ⟨there, fun has => unused ?_⟩
      rw [HasToken, World.execute_registry, same] at has
      obtain ⟨entry, member, named⟩ := List.mem_map.mp has
      exact named ▸ owned.sound.tokens entry member
    · obtain ⟨there, tokenless⟩ := owned.createdTokenless pid consumer earlier
      exact ⟨List.map_subset _ consumersKept there, tokenless_stays effect there tokenless⟩
  · intro entry member
    rcases List.mem_cons.mp member with latest | earlier
    · rw [latest]
      exact sameConsumers_next owned.sound effect
    · refine sameConsumers_trans (owned.sameConsumers entry earlier) effect ?_
      intro subscription called
      rw [called] at fresh
      exact fresh entry earlier
  · intro pid id subscription known
    rcases known_execute known with ⟨_, made⟩ | earlier
    · obtain ⟨rfl, answered⟩ := Exchange.mk.inj made
      obtain ⟨row, stored, same, _⟩ := findSubscription_read (eq_of_heq answered).symm
      exact ⟨_, List.mem_cons_self, row, stored, same⟩
    · obtain ⟨entry, member, read⟩ := owned.subscriptionsRead pid id subscription earlier
      exact ⟨entry, List.mem_cons_of_mem _ member, read⟩
  · intro pid consumerId shown known
    rcases known_execute known with ⟨_, made⟩ | earlier
    · obtain ⟨rfl, answered⟩ := Exchange.mk.inj made
      exact findSubscriptionsByConsumer_read (eq_of_heq answered).symm
    · exact owned.listsRead pid consumerId shown earlier

end Execute

end SafeCameroon.Access
