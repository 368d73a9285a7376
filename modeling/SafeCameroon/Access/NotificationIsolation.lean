import SafeCameroon.Access.Owners
import SafeCameroon.Access.Registration

namespace SafeCameroon.Access

open Table Process

variable {lower : PostgresReviewerRepository.Lower}

def subscriptionsOf (consumerId : ConsumerId) (registry : Registry) : List SubscriptionRow :=
  registry.tables.subscriptions.filter fun row => row.subscription.consumerId = consumerId

def preferenceOf (consumerId : ConsumerId) (registry : Registry) : Option DeliveryPreference :=
  PostgresDeliveryPreferenceRepository.findByConsumer consumerId registry.tables

def OnSubscriptionOf (registry : Registry) (consumerId : ConsumerId) (id : SubscriptionId) : Prop :=
  ∃ row ∈ registry.tables.subscriptions, row.subscription.id = id ∧
    row.subscription.consumerId = consumerId

section Effects

variable {env : Env} {registry after : Registry} {call : Call} {answer : Except Failure call.Res}

theorem subscriptions_changed (effect : Effect lower env registry call answer after)
    {consumerId : ConsumerId}
    (changed : subscriptionsOf consumerId after ≠ subscriptionsOf consumerId registry) :
    (∃ subscription, call = .createSubscription subscription ∧
        subscription.consumerId = consumerId) ∨
      (∃ auditEventId subscription actor requestId,
        call = .updateSubscription auditEventId subscription actor requestId ∧
        OnSubscriptionOf registry consumerId subscription.id) ∨
      ∃ id, call = .deleteSubscription id ∧ OnSubscriptionOf registry consumerId id := by
  cases effect with
  | @subscriptionCreated subscription unused =>
      refine Or.inl ⟨subscription, rfl, ?_⟩
      by_contra other
      apply changed
      simp [subscriptionsOf, Registry.with, other]
  | @subscriptionUpdated auditEventId subscription actor requestId auditEvents single =>
      refine Or.inr (Or.inl ⟨auditEventId, subscription, actor, requestId, rfl, ?_⟩)
      by_contra nowhere
      apply changed
      refine filter_updateWhere _ _ _ _ (fun _ => rfl) ?_
      intro row member theirs
      have other : ¬ row.subscription.id = subscription.id :=
        fun same => nowhere ⟨row, member, same, of_decide_eq_true theirs⟩
      simp [PostgresSubscriptionRepository.outdated, other]
  | @subscriptionDeleted id =>
      refine Or.inr (Or.inr ⟨id, rfl, ?_⟩)
      by_contra nowhere
      apply changed
      simp only [subscriptionsOf, Registry.with, List.filter_filter]
      refine List.filter_congr ?_
      intro row member
      by_cases theirs : row.subscription.consumerId = consumerId
      · have other : ¬ row.subscription.id = id := fun same => nowhere ⟨row, member, same, theirs⟩
        simp [other]
      · simp [theirs]
  | _ => exact absurd rfl changed

theorem preference_changed (effect : Effect lower env registry call answer after)
    {consumerId : ConsumerId}
    (changed : preferenceOf consumerId after ≠ preferenceOf consumerId registry) :
    ∃ preference, call = .upsertDeliveryPreference consumerId preference := by
  cases effect with
  | @preferenceSet other preference =>
      by_cases same : other = consumerId
      · exact ⟨preference, by rw [same]⟩
      · apply absurd _ changed
        simp only [preferenceOf, Registry.with, PostgresDeliveryPreferenceRepository.findByConsumer,
          lookup, List.find?_cons, same, decide_false, List.find?_filter]
        congr 2
        funext row
        by_cases theirs : row.1 = consumerId
        · simp [theirs, Ne.symm same]
        · simp [theirs]
  | _ => exact absurd rfl changed

end Effects

/-- What the organization's link brings about from then on: in the store, and in what a request that
has begun since can have read. -/
structure SinceLinked (init : Registry) (organizationId : OrganizationId) (consumerId : ConsumerId)
    (pid : Nat) (world : World) : Prop where
  owned : Owned world
  lineage : Lineage init world
  linked : Linked world.registry organizationId consumerId
  owner : ∀ owner, Known (world.trace pid) (.findOrganizationIdByConsumerId consumerId) (.ok owner) →
    owner = some organizationId
  present : ∀ organization,
    Known (world.trace pid) (.incident (.findOrganization organizationId)) (.ok organization) →
    organization ≠ none
  tokenless : ∀ storedHash,
    ¬ Known (world.trace pid) (.managementTokenHash consumerId) (.ok (some storedHash))
  notCitizen : ¬ CreatedCitizen (world.trace pid) consumerId
  sole : ∀ id organization,
    Known (world.trace pid) (.incident (.findOrganization id)) (.ok (some organization)) →
    organization.consumerId = some consumerId → id = organizationId

section SinceLinked

variable {init : Registry} {organizationId : OrganizationId} {consumerId : ConsumerId} {pid : Nat}
  {world : World} {server : Server} {jobs : Nat → Job}

theorem Linked.consumer_known {registry : Registry} (sound : Sound registry)
    (linked : Linked registry organizationId consumerId) :
    consumerId ∈ registry.tables.consumers.map (·.id) := by
  obtain ⟨row, member, _, owns⟩ := linked
  exact sound.owners.known row member consumerId owns

theorem Linked.there {registry : Registry} (linked : Linked registry organizationId consumerId) :
    organizationId ∈ registry.tables.organizations.map (·.id) := by
  obtain ⟨row, member, same, _⟩ := linked
  exact List.mem_map.mpr ⟨row, member, same⟩

theorem Owned.keeps_link {caller : Nat} {call : Call} {env : Env} (owned : Owned world)
    (plain : call.Plain)
    (proper : ConsumersProper server (jobs caller) (world.trace caller) call)
    (linked : Linked world.registry organizationId consumerId) :
    Linked (runCall lower env call world.registry).2 organizationId consumerId := by
  have before := linked
  obtain ⟨row, member, rfl, owns⟩ := linked
  obtain ⟨now, there, same, kept | ⟨another, made⟩⟩ :=
    organization_stays (runCall_effect lower env world.registry call plain) member
  · exact ⟨now, there, same, kept.trans owns⟩
  · have called : call = .setConsumerId row.id another := congrArg Exchange.op made
    rw [called] at proper
    obtain ⟨earlier, set⟩ := owned.createdUnlinked caller row.id consumerId proper.1 before
    exact absurd set (proper.2.2 earlier _)

theorem SinceLinked.execute {caller : Nat} {call : Call} {env : Env}
    (since : SinceLinked init organizationId consumerId pid world) (plain : call.Plain)
    (fresh : freshSubscription world call)
    (proper : ConsumersProper server (jobs caller) (world.trace caller) call) :
    SinceLinked init organizationId consumerId pid (world.execute lower caller call env).2 := by
  have effect := runCall_effect lower env world.registry call plain
  constructor
  · exact since.owned.execute plain fresh proper
  · exact since.lineage.execute plain
  · exact since.owned.keeps_link plain proper since.linked
  · intro owner known
    rcases known_execute known with ⟨_, made⟩ | earlier
    · obtain ⟨rfl, answered⟩ := Exchange.mk.inj made
      rw [findOrganizationIdByConsumerId_read (eq_of_heq answered).symm]
      exact owner_of_linked since.owned.sound since.linked
    · exact since.owner owner earlier
  · intro organization known
    rcases known_execute known with ⟨_, made⟩ | earlier
    · obtain ⟨rfl, answered⟩ := Exchange.mk.inj made
      obtain ⟨found, there⟩ := findOrganization_present since.linked.there
      rw [findOrganization_read (eq_of_heq answered).symm, there]
      exact Option.some_ne_none found
    · exact since.present organization earlier
  · intro storedHash known
    rcases known_execute known with ⟨_, made⟩ | earlier
    · obtain ⟨rfl, answered⟩ := Exchange.mk.inj made
      exact since.owned.linkedTokenless organizationId consumerId since.linked
        (managementTokenHash_read (eq_of_heq answered).symm)
    · exact since.tokenless storedHash earlier
  · intro created
    obtain ⟨consumer, managementTokenHash, rfl, known⟩ := created
    rcases known_execute known with ⟨_, made⟩ | earlier
    · exact citizen_new (effect.at made) (since.linked.consumer_known since.owned.sound)
    · exact since.notCitizen ⟨consumer, managementTokenHash, rfl, earlier⟩
  · intro id organization known linksTo
    rcases known_execute known with ⟨_, made⟩ | earlier
    · obtain ⟨rfl, answered⟩ := Exchange.mk.inj made
      have read := findOrganization_read (eq_of_heq answered).symm
      obtain ⟨row, member, rfl, consumer⟩ := findOrganization_stored read.symm
      obtain ⟨other, also, rfl, owns⟩ := since.linked
      exact since.owned.sound.owners.once row member other also consumerId
        (consumer.trans linksTo) owns
    · exact since.sole id organization earlier linksTo

def BelongsTo (server : Server) (job : Job) (registry : Registry) (organizationId : OrganizationId) :
    Prop :=
  ∃ reviewerId, job.caller server = some reviewerId ∧ (IsPlatformAdmin registry reviewerId ∨
    ∃ role, Holds registry reviewerId role (some organizationId))

/-- Whoever makes the request is a platform admin, or belongs to the organization and has read that
it is active. -/
def ActsFor (server : Server) (job : Job) (world : World) (pid : Nat)
    (organizationId : OrganizationId) : Prop :=
  ∃ reviewerId, job.caller server = some reviewerId ∧
    (IsPlatformAdmin world.registry reviewerId ∨
      (∃ role, Holds world.registry reviewerId role (some organizationId)) ∧
        ∃ organization, organization.isActive = true ∧
          Known (world.trace pid) (.incident (.findOrganization organizationId))
            (.ok (some organization)))

theorem ActsFor.belongs {job : Job} (acts : ActsFor server job world pid organizationId) :
    BelongsTo server job world.registry organizationId := by
  obtain ⟨reviewerId, caller, admin | ⟨member, _⟩⟩ := acts
  · exact ⟨reviewerId, caller, Or.inl admin⟩
  · exact ⟨reviewerId, caller, Or.inr member⟩

theorem Lineage.role_held (lineage : Lineage init world) {reviewerId : Uuid}
    {found : Option Membership}
    (read : Known (world.trace pid) (.incident (.findMembership reviewerId)) (.ok found))
    (admin : (Incidents.Cases.membershipOrNone found).role = .platformAdmin) :
    IsPlatformAdmin world.registry reviewerId := by
  cases found with
  | none => cases admin
  | some membership =>
      obtain ⟨role, belongs⟩ := membership
      obtain rfl : role = .platformAdmin := admin
      have stored := lineage.found pid reviewerId _ read
      have shaped := lineage.sound.accounts.shaped _ stored
      cases belongs with
      | none => exact stored
      | some _ => cases shaped

theorem Lineage.membership_held (lineage : Lineage init world) {reviewerId : Uuid}
    {found : Option Membership}
    (read : Known (world.trace pid) (.incident (.findMembership reviewerId)) (.ok found))
    (belongs : (Incidents.Cases.membershipOrNone found).organizationId = some organizationId) :
    ∃ role, Holds world.registry reviewerId role (some organizationId) := by
  cases found with
  | none => cases belongs
  | some membership =>
      obtain ⟨role, other⟩ := membership
      obtain rfl : other = some organizationId := belongs
      exact ⟨role, lineage.found pid reviewerId _ read⟩

theorem SinceLinked.manages (since : SinceLinked init organizationId consumerId pid world) {job : Job}
    {past : Past} (grown : past ⊆ world.trace pid)
    (manages : Manages server job past consumerId) :
    ActsFor server job world pid organizationId := by
  obtain ⟨reviewerId, found, owner, authorized⟩ := manages.mono grown
  obtain rfl := since.owner owner authorized.owned
  by_cases admin : (Incidents.Cases.membershipOrNone found).role = .platformAdmin
  · exact ⟨reviewerId, authorized.caller,
      Or.inl (since.lineage.role_held authorized.membership admin)⟩
  · have allowed := authorized.allowed
    simp only [authorizeConsumerManagement, admin, if_false] at allowed
    split at allowed
    · rename_i belongs
      obtain ⟨organization, read, active⟩ := authorized.active organizationId rfl
      cases organization with
      | none => exact absurd rfl (since.present none read)
      | some organization =>
          have standing : organization.isActive = true := by
            rcases active with active | other
            · simpa using active
            · exact absurd other admin
          exact ⟨reviewerId, authorized.caller,
            Or.inr ⟨since.lineage.membership_held authorized.membership belongs, organization,
              standing, read⟩⟩
    · cases allowed

theorem Owned.read_consumer (owned : Owned world) {before : Subscription}
    (read : SubscriptionRead (world.trace pid) before) {id : SubscriptionId} (same : id = before.id)
    (stored : OnSubscriptionOf world.registry consumerId id) : before.consumerId = consumerId := by
  obtain ⟨asked, known⟩ := read
  obtain ⟨entry, member, row, there, rfl⟩ := owned.subscriptionsRead pid asked before known
  obtain ⟨now, present, alike, theirs⟩ := stored
  rw [← owned.sameConsumers entry member row there now present (alike.trans same)]
  exact theirs

theorem SinceLinked.changes {call : Call} {env : Env}
    (since : SinceLinked init organizationId consumerId pid world) (plain : call.Plain)
    (proper : ConsumersProper server (jobs pid) (world.trace pid) call)
    (changed : subscriptionsOf consumerId (runCall lower env call world.registry).2 ≠
        subscriptionsOf consumerId world.registry ∨
      preferenceOf consumerId (runCall lower env call world.registry).2 ≠
        preferenceOf consumerId world.registry) :
    ActsFor server (jobs pid) world pid organizationId := by
  have effect := runCall_effect lower env world.registry call plain
  have tokenless : ¬ TokenRead (world.trace pid) consumerId :=
    fun read => since.tokenless _ read.choose_spec
  have whole := List.Subset.refl (world.trace pid)
  rcases changed with changed | changed
  · rcases subscriptions_changed effect changed with ⟨subscription, rfl, theirs⟩ |
      ⟨auditEventId, subscription, actor, requestId, rfl, stored⟩ | ⟨id, rfl, stored⟩
    · rcases proper with manages | created
      · exact since.manages whole (theirs ▸ manages)
      · exact absurd (theirs ▸ created) since.notCitizen
    · obtain ⟨before, read, same, authorized⟩ := proper
      have theirs := since.owned.read_consumer read same stored
      rcases authorized with manages | token
      · exact since.manages whole (theirs ▸ manages)
      · exact absurd (theirs ▸ token) tokenless
    · obtain ⟨before, read, same, token⟩ := proper
      have theirs := since.owned.read_consumer read same stored
      exact absurd (theirs ▸ token) tokenless
  · obtain ⟨preference, rfl⟩ := preference_changed effect changed
    rcases proper with manages | created | token
    · exact since.manages whole manages
    · exact absurd created since.notCitizen
    · exact absurd token tokenless

def Reveals (consumerId : ConsumerId) (request : Request) (response : Response) : Prop :=
  match request with
  | .listSubscriptionsForConsumer other => other = consumerId ∨ ∃ shown,
      response = .subscriptions shown ∧ ∃ one ∈ shown, one.consumerId = consumerId
  | .listAllSubscriptions _ _ => ∃ shown, response = .subscriptions shown ∧
      ∃ one ∈ shown, one.consumerId = consumerId
  | .getDeliveryPreference other => other = consumerId ∨ ∃ preference,
      response = .deliveryPreference consumerId preference
  | _ => False

theorem SinceLinked.reveals (since : SinceLinked init organizationId consumerId pid world)
    {response : Response}
    (answered : ConsumersAnswered server (jobs pid) (world.trace pid) response)
    (reveals : Reveals consumerId (jobs pid).request response) :
    BelongsTo server (jobs pid) world.registry organizationId := by
  have whole := List.Subset.refl (world.trace pid)
  unfold Reveals at reveals
  unfold ConsumersAnswered at answered
  split at reveals
  · rename_i other made
    simp only [made] at answered
    obtain ⟨manages, shown, rfl, listed⟩ := answered
    have theirs : other = consumerId := by
      rcases reveals with same | ⟨_, same, one, member, consumer⟩
      · exact same
      · cases same
        exact (since.owned.listsRead pid other shown listed one member).symm.trans consumer
    exact (since.manages whole (theirs ▸ manages)).belongs
  · rename_i limit offset made
    simp only [made] at answered
    obtain ⟨shown, rfl, reviewerId, found, caller, read, admin | empty | listed⟩ := answered
    · exact ⟨reviewerId, caller, Or.inl (since.lineage.role_held read admin)⟩
    · obtain ⟨_, same, one, member, _⟩ := reveals
      cases same
      rw [empty] at member
      cases member
    · obtain ⟨_, same, one, member, consumer⟩ := reveals
      cases same
      obtain ⟨id, organization, owner, belongs, organizationRead, linksTo, listed⟩ := listed
      have theirs := (since.owned.listsRead pid owner shown listed one member).symm.trans consumer
      have sameOrganization := since.sole id organization organizationRead (theirs ▸ linksTo)
      exact ⟨reviewerId, caller, Or.inr (since.lineage.membership_held read
        (sameOrganization ▸ belongs))⟩
  · rename_i other made
    simp only [made] at answered
    obtain ⟨manages, preference, rfl⟩ := answered
    have theirs : other = consumerId := by
      rcases reveals with same | ⟨_, same⟩
      · exact same
      · cases same
        rfl
    exact (since.manages whole (theirs ▸ manages)).belongs
  · exact absurd reveals id

end SinceLinked

section Runs

variable {server : Server} {jobs : Nat → Job} {init : Registry} {config later : Pool lower}

abbrev OwnersProper (server : Server) (jobs : Nat → Job) (lower : PostgresReviewerRepository.Lower) :
    Rules (accessMachine lower) :=
  ((freshSubscriptionRules lower).after (recorded lower) fun pid =>
    AccountsProper server (jobs pid)).after (recorded lower) fun pid =>
      ConsumersProper server (jobs pid)

theorem consumers_told (reached : server.Reaches lower jobs (freshSubscriptionRules lower) init config)
    (pid : Nat) : Told (recorded lower) (fun pid => ConsumersProper server (jobs pid))
      (fun pid => ConsumersEnded server (jobs pid)) config pid := by
  refine told_reach (recorded lower) _ _ _ _ (fun pid => run_consumers server (jobs pid))
    (initially (World.initial init)) ?_ config reached pid
  intro other
  exact rfl

theorem owners_minded
    (reached : server.Reaches lower jobs (freshSubscriptionRules lower) init config)
    (goesOn : Reach (freshSubscriptionRules lower) (server.pool jobs) config later) :
    Reach (OwnersProper server jobs lower) (server.pool jobs) config later :=
  reach_after (recorded lower) _ _ _ _ (fun pid => run_consumers server (jobs pid)) config
    (consumers_told reached) later
    (reach_after (recorded lower) _ _ _ _ (fun pid => run_accounts server (jobs pid)) config
      (accounts_told reached) later goesOn)

theorem owned_reach (sound : Sound init)
    (tokenless : ∀ organizationId consumerId, Linked init organizationId consumerId →
      ¬ HasToken init consumerId)
    (reached : server.Reaches lower jobs (freshSubscriptionRules lower) init config) :
    Owned config.state :=
  reach_holds _ _ _ Owned (Owned.initial sound tokenless)
    (fun _ _ _ _ legal owned => owned.execute legal.1.2.plain legal.1.1 legal.2) config
    (owners_minded .start reached)

theorem waiting_blank
    (reached : server.Reaches lower jobs (freshSubscriptionRules lower) init config) {pid : Nat}
    (waiting : config.slots pid = .waiting) : config.state.trace pid = [] := by
  have told := consumers_told reached pid
  rw [Told, waiting] at told
  exact told

theorem since_linked (sound : Sound init)
    (tokenless : ∀ organizationId consumerId, Linked init organizationId consumerId →
      ¬ HasToken init consumerId)
    (reached : server.Reaches lower jobs (freshSubscriptionRules lower) init config)
    (goesOn : Reach (freshSubscriptionRules lower) (server.pool jobs) config later)
    {organizationId : OrganizationId} {consumerId : ConsumerId} {pid : Nat}
    (linked : Linked config.state.registry organizationId consumerId)
    (waiting : config.slots pid = .waiting) :
    SinceLinked init organizationId consumerId pid later.state := by
  have blank := waiting_blank reached waiting
  have begun : SinceLinked init organizationId consumerId pid config.state := by
    constructor
    · exact owned_reach sound tokenless reached
    · exact lineage_reach sound reached
    · exact linked
    · intro owner known
      rw [blank] at known
      cases known
    · intro organization known
      rw [blank] at known
      cases known
    · intro storedHash known
      rw [blank] at known
      cases known
    · intro created
      obtain ⟨_, _, _, known⟩ := created
      rw [blank] at known
      cases known
    · intro id organization known
      rw [blank] at known
      cases known
  exact reach_holds _ _ _ (SinceLinked init organizationId consumerId pid) begun
    (fun _ _ _ _ legal since => since.execute legal.1.2.plain legal.1.1 legal.2) later
    (owners_minded reached goesOn)

theorem sameConsumers_reach (sound : Sound init)
    (tokenless : ∀ organizationId consumerId, Linked init organizationId consumerId →
      ¬ HasToken init consumerId)
    (reached : server.Reaches lower jobs (freshSubscriptionRules lower) init config)
    (goesOn : Reach (freshSubscriptionRules lower) (server.pool jobs) config later) :
    SameConsumers config.state.registry later.state.registry := by
  -- What was there when the run went on is what some later call found, unless none was made.
  have found : Owned later.state ∧ (later.state.registry = config.state.registry ∨
      ∃ entry ∈ later.state.history, entry.before = config.state.registry) := by
    refine reach_holds _ _ config (fun world => Owned world ∧
      (world.registry = config.state.registry ∨
        ∃ entry ∈ world.history, entry.before = config.state.registry)) ?_ ?_ later
      (owners_minded reached goesOn)
    · exact ⟨owned_reach sound tokenless reached, Or.inl rfl⟩
    · intro pid call env world legal kept
      refine ⟨kept.1.execute legal.1.2.plain legal.1.1 legal.2, Or.inr ?_⟩
      rcases kept.2 with same | ⟨entry, member, same⟩
      · exact ⟨_, List.mem_cons_self, same⟩
      · exact ⟨entry, List.mem_cons_of_mem _ member, same⟩
  rcases found.2 with same | ⟨entry, member, same⟩
  · rw [same]
    intro old stored now there alike
    have one := eq_of_key (·.subscription.id) _
      (owned_reach sound tokenless reached).sound.subscriptionIds now old there stored alike
    rw [one]
  · rw [← same]
    exact found.1.sameConsumers entry member

/-- What an organization is notified of is its own affair: whoever changes it acts for the
organization, whoever is told of it belongs there, and no subscription changes its consumer. -/
theorem notifications_isolated (server : Server) (jobs : Nat → Job)
    (lower : PostgresReviewerRepository.Lower) (init : Registry) (sound : Sound init)
    (tokenless : ∀ organizationId consumerId, Linked init organizationId consumerId →
      ¬ HasToken init consumerId)
    (config later : Pool lower)
    (reached : server.Reaches lower jobs (freshSubscriptionRules lower) init config)
    (goesOn : Reach (freshSubscriptionRules lower) (server.pool jobs) config later) :
    SameConsumers config.state.registry later.state.registry ∧
      ∀ organizationId consumerId pid, Linked config.state.registry organizationId consumerId →
        config.slots pid = .waiting →
        (∀ label next, label.pid = pid → (freshSubscriptionRules lower).legal later label →
          step (server.pool jobs) later label = some next →
          (subscriptionsOf consumerId next.state.registry ≠
              subscriptionsOf consumerId later.state.registry ∨
            preferenceOf consumerId next.state.registry ≠
              preferenceOf consumerId later.state.registry) →
          ActsFor server (jobs pid) later.state pid organizationId) ∧
        ∀ response, later.slots pid = .active (.done response) →
          Reveals consumerId (jobs pid).request response →
          BelongsTo server (jobs pid) later.state.registry organizationId := by
  refine ⟨sameConsumers_reach sound tokenless reached goesOn, ?_⟩
  intro organizationId consumerId pid linked waiting
  have since := since_linked sound tokenless reached goesOn linked waiting
  have whole := Reach.trans _ _ _ _ _ reached goesOn
  have told := consumers_told whole pid
  constructor
  · intro label next mine legal stepped changed
    rcases step_cases _ _ _ label stepped with ⟨_, rfl, _, rfl⟩ |
      ⟨caller, env, call, rest, rfl, slot, rfl⟩ | ⟨_, _, _, rfl, _, rfl⟩
    · rcases changed with changed | changed <;> exact absurd rfl changed
    · obtain rfl : caller = pid := mine
      rw [Told, slot] at told
      have accounts := accounts_told whole caller
      rw [Told, slot] at accounts
      exact since.changes accounts.1.plain told.1 changed
    · rcases changed with changed | changed <;> exact absurd rfl changed
  · intro response answered reveals
    rw [Told, answered] at told
    exact since.reveals (told response rfl) reveals

end Runs

namespace Scenario

def subscriber : ConsumerId := ⟨50⟩

def linked : Registry :=
  { staffed with
    tables := { staffed.tables with
      organizations := [{ PostgresOrganizationRepository.newRow organizationId with
        consumerId := some subscriber }]
      consumers := [{ id := subscriber, locale := none }] } }

theorem linked_sound : Sound linked where
  accounts := staffed_sound.accounts
  owners :=
    { ids := by decide
      once := by
        intro one first other second consumerId _ _
        rw [List.mem_singleton.mp first, List.mem_singleton.mp second]
      known := by
        intro row member consumerId owns
        rw [List.mem_singleton.mp member] at owns
        cases owns
        decide }
  subscriptionIds := by decide
  tokens := by decide

/-- The admin of the organization says where its alerts go. -/
def settingPreference : Job :=
  { fresh := Supply.of 0, headers := signedIn "owner"
    request := .setDeliveryPreference subscriber "ALL" [⟨"SMS", "+237600000000"⟩] }

def noSubscriptions (config : Pool lower) : Label Env → Bool
  | .call pid _ => match config.slots pid with
    | .active (.call (.createSubscription _) _) => false
    | _ => true
  | _ => true

theorem noSubscriptions_legal (config : Pool lower) (label : Label Env)
    (checked : noSubscriptions config label = true) :
    (freshSubscriptionRules lower).legal config label := by
  cases label with
  | start pid => trivial
  | halt pid => exact fun _ _ _ => trivial
  | call pid env =>
      intro call next slot
      simp only [noSubscriptions, slot] at checked
      cases call with
      | createSubscription subscription => cases checked
      | _ => trivial

def nextChanges (jobs : Nat → Job) (config : Pool lower) : Bool :=
  noSubscriptions config (.call 0 env) && match step (server.pool jobs) config (.call 0 env) with
    | some next => decide (preferenceOf subscriber next.state.registry ≠
        preferenceOf subscriber config.state.registry)
    | none => false

theorem notifications_isolated_owner :
    ∃ config : Pool Scenario.lower,
      ActsFor server settingPreference config.state 0 organizationId := by
  obtain ⟨config, arrived, found, _⟩ := play_reaches (server.pool fun _ => settingPreference)
    (initially (World.initial linked) : Pool Scenario.lower) noSubscriptions noSubscriptions_legal
    (runs 0 4) (nextChanges fun _ => settingPreference) (by decide +kernel)
  obtain ⟨checked, changes⟩ := Bool.and_eq_true_iff.mp found
  have isolated := notifications_isolated server (fun _ => settingPreference) Scenario.lower linked
    linked_sound (by simp [HasToken, linked, staffed, empty]) _ config .start arrived
  have link : Linked linked organizationId subscriber := ⟨_, List.mem_cons_self, rfl, rfl⟩
  have acts := (isolated.2 organizationId subscriber 0 link rfl).1 (.call 0 env)
  cases stepped : step (server.pool fun _ => settingPreference) config (.call 0 env) with
  | none =>
      rw [stepped] at changes
      cases changes
  | some next =>
      rw [stepped] at changes
      exact ⟨config, acts next rfl (noSubscriptions_legal config _ checked) stepped
        (Or.inr (of_decide_eq_true changes))⟩

end Scenario

end SafeCameroon.Access
