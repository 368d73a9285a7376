import SafeCameroon.Access.Accounts
import SafeCameroon.Access.HandlerCalls

namespace SafeCameroon.Access

open Process Proc Table

def Request.provisions : Request → Bool
  | .createOrganization _ | .createCitizenSubscription _ | .updateCitizenSubscription _ _ => true
  | _ => false

def Wrote (past : Past) : Prop := ∃ exchange ∈ past, exchange.op.effective exchange.answer = true

/-- A call answered an error although an earlier one had taken effect. -/
def FailsLate : Past → Prop
  | [] => False
  | exchange :: past => ((∃ failure, exchange.answer = .error failure) ∧ Wrote past) ∨ FailsLate past

/-- The organizations, the consumers with their tokens, the preferences and the subscriptions are as
they were. -/
structure Unchanged (before after : Registry) : Prop where
  organizations : after.tables.organizations = before.tables.organizations
  consumers : after.tables.consumers = before.tables.consumers
  managementTokenHashes : after.managementTokenHashes = before.managementTokenHashes
  deliveryPreferences : after.tables.deliveryPreferences = before.tables.deliveryPreferences
  subscriptions : after.tables.subscriptions = before.tables.subscriptions

def Call.founding : (call : Call) → Except Failure call.Res → Bool
  | .createOrganization _, .ok _ => true
  | .createConsumerWithManagementToken _ _, .ok _ => true
  | .updateSubscription _ _ _ _, .ok true => true
  | _, _ => false

/-- The calls that a request makes after it has started to write. -/
def Steady : Call → Prop
  | .incident (.findOrganization _) | .createConsumer _ | .setConsumerId _ _
  | .upsertDeliveryPreference _ _ | .createSubscription _ => True
  | _ => False

def Provision : Call → Prop
  | .createOrganization _ | .createConsumer _ | .setConsumerId _ _
  | .createConsumerWithManagementToken _ _ | .upsertDeliveryPreference _ _ | .createSubscription _
  | .updateSubscription _ _ _ _ => True
  | other => Lookup other

section Past

variable {past : Past} {call : Call} {answer : Except Failure call.Res}

theorem not_wrote_nil : ¬ Wrote [] := by
  intro wrote
  obtain ⟨exchange, member, _⟩ := wrote
  cases member

theorem wrote_cons : Wrote (⟨call, answer⟩ :: past) ↔ call.effective answer = true ∨ Wrote past := by
  constructor
  · intro wrote
    obtain ⟨exchange, member, effective⟩ := wrote
    cases member with
    | head => exact Or.inl effective
    | tail _ earlier => exact Or.inr ⟨exchange, earlier, effective⟩
  · intro either
    cases either with
    | inl effective => exact ⟨_, List.mem_cons_self, effective⟩
    | inr wrote =>
        obtain ⟨exchange, earlier, effective⟩ := wrote
        exact ⟨exchange, List.mem_cons_of_mem _ earlier, effective⟩

theorem FailsLate.wrote (late : FailsLate past) : Wrote past := by
  induction past with
  | nil => cases late
  | cons exchange past ih =>
      apply wrote_cons.mpr
      cases late with
      | inl now => exact Or.inr now.2
      | inr earlier => exact Or.inr (ih earlier)

theorem Call.founding_effective (founding : call.founding answer = true) :
    call.effective answer = true := by
  unfold Call.founding at founding
  split at founding
  · rfl
  · rfl
  · rfl
  · cases founding

theorem Call.error_ineffective (failure : Failure) :
    call.effective (.error failure) = false := by
  cases call <;> rfl

theorem Lookup.ineffective (lookup : Lookup call) : call.effective answer = false := by
  cases call with
  | incident call => rfl
  | findReviewerByEmail email => rfl
  | findOrganizationIdByConsumerId id => rfl
  | managementTokenHash id => rfl
  | findSubscription id => rfl
  | listAllSubscriptions limit offset => rfl
  | findDeliveryPreference id => rfl
  | _ => cases lookup

end Past

section Weight

/-- How much there is of what the requests provide; an edit of a subscription adds its version. -/
def weight (registry : Registry) : Nat :=
  registry.tables.organizations.length + registry.tables.consumers.length +
    (registry.tables.subscriptions.map (·.subscription.version)).sum

theorem versions_update (subscription : Subscription) (rows : List SubscriptionRow) :
    ((updateWhere (PostgresSubscriptionRepository.outdated subscription)
        (PostgresSubscriptionRepository.revised subscription) rows).map
          (·.subscription.version)).sum =
      (rows.map (·.subscription.version)).sum +
        rows.countP (PostgresSubscriptionRepository.outdated subscription) := by
  induction rows with
  | nil => rfl
  | cons row rows ih =>
      have tail := ih
      simp only [updateWhere] at tail ⊢
      by_cases old : PostgresSubscriptionRepository.outdated subscription row = true
      · have raised : row.subscription.version + 1 = subscription.version := by
          simp only [PostgresSubscriptionRepository.outdated, Bool.and_eq_true,
            decide_eq_true_eq] at old
          exact old.2
        have version : (PostgresSubscriptionRepository.revised subscription row).subscription.version =
            subscription.version := rfl
        simp only [List.map_cons, List.sum_cons, List.countP_cons, old, if_true, tail, version]
        omega
      · simp only [List.map_cons, List.sum_cons, List.countP_cons, old, if_false, tail,
          Bool.false_eq_true]
        omega

variable {lower : PostgresReviewerRepository.Lower} {env : Env} {registry after : Registry}
  {call : Call} {answer : Except Failure call.Res}

theorem effect_idle (effect : Effect lower env registry call answer after)
    (provision : Provision call) (idle : call.effective answer = false) : after = registry := by
  cases effect with
  | idle _ => rfl
  | audited auditEvents quiet =>
      cases quiet with
      | inl reviewer =>
          obtain ⟨_, _, _, _, _, rfl⟩ := reviewer
          cases provision
      | inr viewed =>
          obtain ⟨_, _, _, _, rfl⟩ := viewed
          cases provision
  | _ => cases idle

/-- What a call that provisions does adds to what there is, and the first of them adds for certain. -/
theorem effect_weight (effect : Effect lower env registry call answer after)
    (provision : Provision call) :
    weight registry + (if call.founding answer then 1 else 0) ≤ weight after := by
  by_cases idle : call.effective answer = false
  · have later : call.founding answer = false := by
      apply Bool.eq_false_iff.mpr
      intro founding
      rw [Call.founding_effective founding] at idle
      cases idle
    rw [effect_idle effect provision idle, later]
    simp
  · cases effect with
    | idle silent => exact absurd silent idle
    | audited auditEvents quiet =>
        cases quiet with
        | inl reviewer =>
            obtain ⟨_, _, _, _, _, rfl⟩ := reviewer
            cases provision
        | inr viewed =>
            obtain ⟨_, _, _, _, rfl⟩ := viewed
            cases provision
    | reviewerCreated unused => cases provision
    | memberAdded known shaped unused => cases provision
    | activeSet => cases provision
    | subscriptionDeleted => cases provision
    | organizationCreated unused =>
        simp only [weight, Registry.with, List.length_append, List.length_singleton, Call.founding,
          if_true]
        omega
    | linked known free =>
        simp [weight, Registry.with, PostgresOrganizationRepository.update, updateWhere,
          Call.founding]
    | consumerCreated unused =>
        simp only [weight, Registry.with, List.length_append, List.length_singleton, Call.founding,
          Bool.false_eq_true, if_false]
        omega
    | citizenCreated unused =>
        simp only [weight, List.length_append, List.length_singleton, Call.founding, if_true]
        omega
    | subscriptionCreated unused =>
        simp only [weight, Registry.with, List.map_append, List.sum_append, Call.founding,
          Bool.false_eq_true, if_false]
        omega
    | subscriptionUpdated auditEvents single =>
        simp only [weight, Registry.with, versions_update, single, Call.founding, if_true]
        omega
    | preferenceSet => simp [weight, Registry.with, Call.founding]

theorem steady_database (steady : Steady call) {failure : Failure}
    (failed : (runCall lower env call registry).1 = .error failure) : failure = .database := by
  cases call with
  | incident call =>
      cases call with
      | findOrganization id =>
          cases fault : env.fault with
          | true =>
              simp only [runCall, Incidents.runCall, query, fault, if_true, Except.error.injEq] at failed
              exact failed.symm
          | false => simp [runCall, Incidents.runCall, query, fault] at failed
      | _ => cases steady
  | createConsumer consumer =>
      apply transaction_database env registry (PostgresConsumerRepository.create _) _ failed
      intro failure raised
      simp only [PostgresConsumerRepository.create, bind_error, pure, Except.pure, reduceCtorEq,
        and_false, exists_false, or_false] at raised
      exact insertUnique_error _ _ _ _ _ raised
  | setConsumerId id consumerId =>
      apply transaction_database env registry
        (PostgresOrganizationRepository.setConsumerId id consumerId) _ failed
      intro failure raised
      simp only [PostgresOrganizationRepository.setConsumerId] at raised
      split at raised
      · exact (Except.error.inj raised).symm
      · split at raised
        · exact (Except.error.inj raised).symm
        · cases raised
  | upsertDeliveryPreference consumerId preference =>
      apply transaction_database env registry
        (PostgresDeliveryPreferenceRepository.upsert consumerId preference) _ failed
      intro failure raised
      cases raised
  | createSubscription subscription =>
      apply transaction_database env registry
        (PostgresSubscriptionRepository.create env.now subscription) _ failed
      intro failure raised
      simp only [PostgresSubscriptionRepository.create, bind_error, pure, Except.pure, reduceCtorEq,
        and_false, exists_false, or_false] at raised
      exact insertUnique_error _ _ _ _ _ raised
  | _ => cases steady

end Weight

section Orderly

/-- Where a request may begin to write, and what it writes first is its own. -/
def Drawn (job : Job) (past : Past) : Call → Prop
  | .createOrganization id =>
      (∃ name, job.request = .createOrganization name) ∧ id = ⟨job.fresh 0⟩ ∧ ¬ Wrote past
  | .createConsumerWithManagementToken consumer _ =>
      (∃ request, job.request = .createCitizenSubscription request) ∧
        consumer.id = ⟨job.fresh 0⟩ ∧ ¬ Wrote past
  | _ => True

/-- The rule for one request: one that provisions stops at the first error after it began to write. -/
structure Orderly (job : Job) (past : Past) (call : Call) : Prop where
  smooth : job.request.provisions = true → ¬ FailsLate past
  drawn : Drawn job past call

/-- Everything that the request was to write is there. -/
def Finished (job : Job) (past : Past) : Prop :=
  match job.request with
  | .createOrganization _ => Known past (.setConsumerId ⟨job.fresh 0⟩ ⟨job.fresh 1⟩) (.ok ())
  | .createCitizenSubscription _ =>
      (∃ preference, Known past (.upsertDeliveryPreference ⟨job.fresh 0⟩ preference) (.ok ())) ∧
        ∃ subscription, subscription.consumerId = ⟨job.fresh 0⟩ ∧
          Known past (.createSubscription subscription) (.ok ())
  | _ => True

/-- What is known when a request that provisions has ended. -/
structure Settled {α : Type} (job : Job) (past : Past) (result : Except HandlerError α) : Prop where
  founded : Wrote past → ∃ exchange ∈ past, exchange.op.founding exchange.answer = true
  refused : ∀ error, result = .error (.api error) → Wrote past → FailsLate past
  failed : FailsLate past → ∃ call failure, Steady call ∧ Known past call (.error failure) ∧
    (failure = .database → ∃ error, result = .error (.api error))
  finished : Wrote past → FailsLate past ∨ Finished job past

/-- The request has begun to write, and nothing has failed since. -/
structure Writing (past : Past) : Prop where
  founded : ∃ exchange ∈ past, exchange.op.founding exchange.answer = true
  smooth : ¬ FailsLate past

variable {server : Server} {job : Job} {past : Past} {α β : Type}

theorem Writing.wrote (writing : Writing past) : Wrote past := by
  obtain ⟨exchange, member, founding⟩ := writing.founded
  exact ⟨exchange, member, Call.founding_effective founding⟩

theorem writing_first {call : Call} {value : call.Res} (blank : ¬ Wrote past)
    (founding : call.founding (.ok value) = true) : Writing (⟨call, .ok value⟩ :: past) where
  founded := ⟨_, List.mem_cons_self, founding⟩
  smooth := by
    intro late
    cases late with
    | inl now => exact blank now.2
    | inr earlier => exact blank earlier.wrote

theorem Writing.next (writing : Writing past) (call : Call) (value : call.Res) :
    Writing (⟨call, .ok value⟩ :: past) where
  founded := by
    obtain ⟨exchange, member, founding⟩ := writing.founded
    exact ⟨exchange, List.mem_cons_of_mem _ member, founding⟩
  smooth := by
    intro late
    cases late with
    | inl now =>
        obtain ⟨failure, failed⟩ := now.1
        cases failed
    | inr earlier => exact writing.smooth earlier

theorem settled_blank (blank : ¬ Wrote past) (result : Except HandlerError α) :
    Settled job past result where
  founded := fun wrote => absurd wrote blank
  refused := fun _ _ wrote => absurd wrote blank
  failed := fun late => absurd late.wrote blank
  finished := fun wrote => absurd wrote blank

theorem Writing.settled (writing : Writing past) (finished : Finished job past)
    (result : Except HandlerError α) (succeeds : ∀ error, result ≠ .error (.api error)) :
    Settled job past result where
  founded := fun _ => writing.founded
  refused := fun error same => absurd same (succeeds error)
  failed := fun late => absurd late writing.smooth
  finished := fun _ => Or.inr finished

theorem orderly_blank (blank : ¬ Wrote past) {call : Call} (drawn : Drawn job past call) :
    Orderly job past call where
  smooth := fun _ late => blank late.wrote
  drawn := drawn

theorem Lookup.drawn {call : Call} (lookup : Lookup call) : Drawn job past call := by
  cases call <;> trivial

theorem settled_reads (program : Handler α) (rest : α → Handler β) (uses : program.Uses Lookup)
    (blank : ¬ Wrote past)
    (next : ∀ later value, ¬ Wrote later →
      (rest value).Honest (Orderly job) (Settled job) later) :
    (program.bind rest).Honest (Orderly job) (Settled job) past := by
  apply honest_bind _ _ program rest past
  · apply honest_uses (Orderly job) (fun later => ¬ Wrote later) Lookup _ _ program uses past blank
    · intro now call still lookup
      exact orderly_blank still lookup.drawn
    · intro now call answer still lookup wrote
      cases wrote_cons.mp wrote with
      | inl effective =>
          rw [lookup.ineffective] at effective
          cases effective
      | inr earlier => exact still earlier
  · intro later value known
    exact next later value known.1
  · intro later error known
    exact settled_blank known.1 _

theorem settled_first (error : ApiError) (call : Call) (rest : call.Res → Handler β)
    (blank : ¬ Wrote past) (drawn : Drawn job past call)
    (next : ∀ value, (rest value).Honest (Orderly job) (Settled job) (⟨call, .ok value⟩ :: past)) :
    ((orFail error call).bind rest).Honest (Orderly job) (Settled job) past := by
  apply honest_perform
  · exact orderly_blank blank drawn
  · exact next
  · intro failure
    apply settled_blank
    intro wrote
    cases wrote_cons.mp wrote with
    | inl effective =>
        rw [Call.error_ineffective] at effective
        cases effective
    | inr earlier => exact blank earlier

theorem settled_later (error : ApiError) (call : Call) (rest : call.Res → Handler β)
    (writing : Writing past) (steady : Steady call)
    (next : ∀ value, Writing (⟨call, .ok value⟩ :: past) →
      (rest value).Honest (Orderly job) (Settled job) (⟨call, .ok value⟩ :: past)) :
    ((orFail error call).bind rest).Honest (Orderly job) (Settled job) past := by
  apply honest_perform
  · refine { smooth := fun _ => writing.smooth, drawn := ?_ }
    cases call <;> trivial
  · intro value
    exact next value (writing.next call value)
  · intro failure
    have late : FailsLate (⟨call, .error failure⟩ :: past) := Or.inl ⟨⟨failure, rfl⟩, writing.wrote⟩
    constructor
    · intro _
      obtain ⟨exchange, member, founding⟩ := writing.founded
      exact ⟨exchange, List.mem_cons_of_mem _ member, founding⟩
    · exact fun _ _ _ => late
    · intro _
      refine ⟨call, failure, steady, List.mem_cons_self, ?_⟩
      intro database
      rw [database]
      exact ⟨error, rfl⟩
    · exact fun _ => Or.inl late

end Orderly

section Handlers

variable {server : Server} (job : Job)

theorem organization_new_id {id : OrganizationId} {name : String} {organization : Organization}
    (made : Organization.new id name = .ok organization) : organization.id = id := by
  unfold Organization.new at made
  split at made
  · cases made
  · cases made
    rfl

theorem consumer_new_id {id : ConsumerId} {name : String} {consumerType : ConsumerType}
    {consumer : Consumer} (made : Consumer.new id name consumerType = .ok consumer) :
    consumer.id = id := by
  unfold Consumer.new at made
  split at made
  · cases made
  · cases made
    rfl

theorem createOrganization_settled (name : String) (creates : job.request = .createOrganization name) :
    (Organizations.createOrganization server.verify job.fresh job.headers name job.requestId).Honest
      (Orderly job) (Settled job) [] := by
  apply settled_reads _ _ (actor_uses (fun _ => id) job.headers job.requestId) not_wrote_nil
  intro past actor blank
  apply settled_reads _ _ (requirePlatformAdmin_uses (fun _ => id) job.requestId actor) blank
  intro past _ blank
  cases made : Organization.new ⟨job.fresh 0⟩ name with
  | error _ => exact settled_blank blank _
  | ok organization =>
      dsimp only
      cases named : Consumer.new ⟨job.fresh 1⟩ (Text.trim name) .organization with
      | error _ => exact settled_blank blank _
      | ok consumer =>
          dsimp only [Organizations.saveOrganization]
          have own := organization_new_id made
          have theirs := consumer_new_id named
          have drawn : Drawn job past (.createOrganization organization.id) :=
            ⟨⟨name, creates⟩, own, blank⟩
          apply settled_first _ (.createOrganization organization.id) _ blank drawn
          intro value
          have began : Writing (⟨.createOrganization organization.id, .ok value⟩ :: past) :=
            writing_first blank rfl
          apply settled_later _ (.createConsumer consumer) _ began trivial
          intro _ writing
          apply settled_later _ (.setConsumerId organization.id consumer.id) _ writing trivial
          intro value writing
          apply settled_later _ (.incident (.findOrganization organization.id)) _ writing trivial
          intro found writing
          have finished : ∀ earlier : Past, Finished job (⟨.incident (.findOrganization
              organization.id), .ok found⟩ :: ⟨.setConsumerId organization.id consumer.id,
                .ok value⟩ :: earlier) := by
            intro earlier
            rw [Finished, creates, own, theirs]
            exact List.mem_cons_of_mem _ List.mem_cons_self
          cases found with
          | none => exact writing.settled (finished _) _ fun _ same => by cases same
          | some organization => exact writing.settled (finished _) _ fun _ same => by cases same

theorem prepare_ids {fresh : Supply} {request : CitizenSubscriptions.CreateRequest}
    {prepared : PreparedCitizenSubscription}
    (prepares : CitizenSubscriptions.prepare server.sha256 fresh request = .ok prepared) :
    prepared.consumer.id = ⟨fresh 0⟩ ∧ prepared.subscription.consumerId = ⟨fresh 0⟩ := by
  simp only [CitizenSubscriptions.prepare, prepareCitizenSubscription] at prepares
  split at prepares
  · cases prepares
  · split at prepares
    · cases prepares
    · split at prepares
      · cases prepares
      · cases prepares
        exact ⟨rfl, rfl⟩

theorem createCitizen_settled (request : CitizenSubscriptions.CreateRequest)
    (creates : job.request = .createCitizenSubscription request) :
    (CitizenSubscriptions.create server.sha256 job.fresh job.headers request job.requestId).Honest
      (Orderly job) (Settled job) [] := by
  apply settled_reads _ _ (lift_uses (fun _ => id) (enforceRateLimit_uses _ _ _)) not_wrote_nil
  intro past _ blank
  cases prepares : CitizenSubscriptions.prepare server.sha256 job.fresh request with
  | error _ => exact settled_blank blank _
  | ok prepared =>
      dsimp only [CitizenSubscriptions.savePrepared]
      have ids := prepare_ids prepares
      have drawn : Drawn job past (.createConsumerWithManagementToken prepared.consumer
          prepared.managementTokenHash) := ⟨⟨request, creates⟩, ids.1, blank⟩
      apply settled_first _ (.createConsumerWithManagementToken prepared.consumer
        prepared.managementTokenHash) _ blank drawn
      intro value
      have began : Writing (⟨.createConsumerWithManagementToken prepared.consumer
          prepared.managementTokenHash, .ok value⟩ :: past) := writing_first blank rfl
      apply settled_later _ (.upsertDeliveryPreference prepared.consumer.id
        prepared.deliveryPreference) _ began trivial
      intro set writing
      apply settled_later _ (.createSubscription prepared.subscription) _ writing trivial
      intro subscribed writing
      have finished : Finished job (⟨.createSubscription prepared.subscription, .ok subscribed⟩ ::
          ⟨.upsertDeliveryPreference prepared.consumer.id prepared.deliveryPreference, .ok set⟩ ::
          ⟨.createConsumerWithManagementToken prepared.consumer prepared.managementTokenHash,
            .ok value⟩ :: past) := by
        rw [Finished, creates, ids.1]
        refine ⟨⟨prepared.deliveryPreference, List.mem_cons_of_mem _ List.mem_cons_self⟩, ?_⟩
        exact ⟨prepared.subscription, ids.2, List.mem_cons_self⟩
      exact writing.settled finished _ fun _ same => by cases same

/-- A serialized push subscription is always an endpoint, so that only the database can stop it from
being stored. -/
theorem updatePreference_settled {past : Past} (ended : ∀ past, Finished job past)
    (writing : Writing past) (consumerId : ConsumerId)
    (pushSubscription : Option PushSubscriptionInput) (response : CitizenSubscriptions.RulesResponse) :
    ((CitizenSubscriptions.updatePreference consumerId pushSubscription job.requestId).bind fun _ =>
      .done response).Honest (Orderly job) (Settled job) past := by
  cases pushSubscription with
  | none => exact writing.settled (ended past) _ fun _ same => by cases same
  | some push =>
      have visible := push.toJson_nonblank
      simp only [CitizenSubscriptions.updatePreference, ChannelEndpoint.new, dif_neg visible]
      apply settled_later _ (.upsertDeliveryPreference consumerId _) _ writing trivial
      intro _ later
      exact later.settled (ended _) _ fun _ same => by cases same

theorem updateCitizen_settled (id : SubscriptionId) (request : CitizenSubscriptions.UpdateRequest)
    (updates : job.request = .updateCitizenSubscription id request) :
    (CitizenSubscriptions.update server.sha256 job.fresh job.headers id request job.requestId).Honest
      (Orderly job) (Settled job) [] := by
  apply settled_reads _ _ (authorizeCitizenSubscription_uses (fun _ lookup => lookup) job.headers
    job.requestId id) not_wrote_nil
  intro past before blank
  have ended : ∀ past : Past, Finished job past := by
    intro past
    rw [Finished, updates]
    trivial
  split
  · exact settled_blank blank _
  · split
    · exact settled_blank blank _
    · cases before.updateRules (CitizenSubscriptions.updatedRules request) with
      | error _ => exact settled_blank blank _
      | ok subscription =>
          apply settled_first _ (.updateSubscription (job.fresh 0) subscription .automated
            job.requestId) _ blank trivial
          intro updated
          cases updated with
          | false =>
              apply settled_blank
              intro wrote
              cases wrote_cons.mp wrote with
              | inl effective => cases effective
              | inr earlier => exact blank earlier
          | true =>
              have began : Writing (⟨.updateSubscription (job.fresh 0) subscription .automated
                  job.requestId, .ok true⟩ :: past) := writing_first blank rfl
              exact updatePreference_settled job ended began _ _ _

theorem settled_map {α β : Type} {past : Past} (f : α → β) (program : Handler α)
    (honest : program.Honest (Orderly job) (Settled job) past) :
    (program.bind fun value => .done (f value)).Honest (Orderly job) (Settled job) past := by
  apply honest_bind _ _ program _ past honest
  · intro later value settled
    constructor
    · exact settled.founded
    · intro error same
      cases same
    · intro late
      obtain ⟨call, failure, steady, known, answers⟩ := settled.failed late
      refine ⟨call, failure, steady, known, ?_⟩
      intro database
      obtain ⟨error, same⟩ := answers database
      cases same
    · exact settled.finished
  · intro later error settled
    exact
      { founded := settled.founded
        refused := fun error same => settled.refused error (by cases same; rfl)
        failed := fun late => by
          obtain ⟨call, failure, steady, known, answers⟩ := settled.failed late
          refine ⟨call, failure, steady, known, ?_⟩
          intro database
          obtain ⟨error, same⟩ := answers database
          cases same
          exact ⟨error, rfl⟩
        finished := settled.finished }

theorem calls_drawn (other : job.request.provisions = false) {past : Past} {call : Call}
    (made : job.request.calls call) : Drawn job past call := by
  cases made with
  | inl lookup => exact lookup.drawn
  | inr writes =>
      have provisions : Drawn job past call ∨ job.request.provisions = true := by
        cases call with
        | createOrganization id =>
            right
            generalize job.request = request at writes
            cases request <;> first | rfl | cases writes
        | createConsumerWithManagementToken consumer managementTokenHash =>
            right
            generalize job.request = request at writes
            cases request <;> first | rfl | cases writes
        | _ => exact Or.inl trivial
      cases provisions with
      | inl drawn => exact drawn
      | inr provisions =>
          rw [other] at provisions
          cases provisions

theorem run_settled (server : Server) (job : Job) :
    (server.run job).Honest (Orderly job)
      (fun past result => job.request.provisions = true → Settled job past result) [] := by
  have known : ∀ {program : Handler Response}, program.Honest (Orderly job) (Settled job) [] →
      program.Honest (Orderly job)
        (fun past result => job.request.provisions = true → Settled job past result) [] :=
    fun honest => honest_post _ _ (fun _ _ settled _ => settled) _ _ honest
  have others : job.request.provisions = false → (server.run job).Honest (Orderly job)
      (fun past result => job.request.provisions = true → Settled job past result) [] := by
    intro other
    have honest := honest_uses (Orderly job) (fun _ => True) job.request.calls
      (fun past call _ made =>
        { smooth := fun provisions => by rw [other] at provisions; cases provisions
          drawn := calls_drawn job other made })
      (fun _ _ _ _ _ => trivial) (server.run job) (run_calls server job) [] trivial
    refine honest_post _ _ ?_ _ _ honest
    intro past result _ provisions
    rw [other] at provisions
    cases provisions
  cases made : job.request with
  | createOrganization name =>
      rw [← made]
      apply known
      rw [Server.run, made]
      exact settled_map job _ _ (createOrganization_settled job name made)
  | createCitizenSubscription request =>
      rw [← made]
      apply known
      rw [Server.run, made]
      exact settled_map job _ _ (createCitizen_settled job request made)
  | updateCitizenSubscription id request =>
      rw [← made]
      apply known
      rw [Server.run, made]
      exact settled_map job _ _ (updateCitizen_settled job id request made)
  | _ =>
      rw [← made]
      apply others
      rw [made]
      rfl

end Handlers

section Alone

variable (lower : PostgresReviewerRepository.Lower) (pid : Nat) (registry : Registry)

/-- What a request that provisions, alone, has done to the registry. -/
structure Solo (world : World) : Prop where
  untouched : ¬ Wrote (world.trace pid) → world.registry = registry
  heavier : weight registry ≤ weight world.registry
  founded : (∃ exchange ∈ world.trace pid, exchange.op.founding exchange.answer = true) →
    weight registry < weight world.registry
  steady : ∀ call failure, Steady call → Known (world.trace pid) call (.error failure) →
    failure = .database

theorem solo_execute (call : Call) (env : Env) (world : World) (provision : Provision call)
    (solo : Solo pid registry world) : Solo pid registry (world.execute lower pid call env).2 := by
  have effect := runCall_effect lower env world.registry call (by
    cases call <;> trivial)
  have grown := effect_weight effect provision
  have trace : World.trace pid (world.execute lower pid call env).2 =
      ⟨call, (runCall lower env call world.registry).1⟩ :: World.trace pid world :=
    (recorded lower).own pid call env world
  have heavier : weight registry ≤ weight (world.execute lower pid call env).2.registry := by
    rw [World.execute_registry]
    have before := solo.heavier
    omega
  constructor
  · intro blank
    rw [trace] at blank
    have idle : call.effective (runCall lower env call world.registry).1 = false := by
      apply Bool.eq_false_iff.mpr
      intro effective
      exact blank (wrote_cons.mpr (Or.inl effective))
    rw [World.execute_registry, effect_idle effect provision idle]
    exact solo.untouched fun wrote => blank (wrote_cons.mpr (Or.inr wrote))
  · exact heavier
  · intro founded
    obtain ⟨exchange, member, founding⟩ := founded
    rw [trace] at member
    rw [World.execute_registry]
    cases member with
    | head =>
        rw [if_pos founding] at grown
        have before := solo.heavier
        omega
    | tail _ earlier =>
        have before := solo.founded ⟨exchange, earlier, founding⟩
        omega
  · intro other failure steady known
    rw [Known, trace] at known
    cases List.mem_cons.mp known with
    | inr earlier => exact solo.steady other failure steady earlier
    | inl now =>
        obtain ⟨rfl, same⟩ := Exchange.mk.inj now
        exact steady_database steady (eq_of_heq same).symm

variable {registry}

theorem run_provision (server : Server) (job : Job) (provisions : job.request.provisions = true) :
    (server.run job).Uses Provision := by
  apply uses_mono _ _ (run_calls server job)
  intro call made
  cases made with
  | inl lookup => cases call <;> trivial
  | inr writes =>
      generalize job.request = request at writes provisions
      cases request with
      | createOrganization name => cases call <;> trivial
      | createCitizenSubscription request => cases call <;> trivial
      | updateCitizenSubscription id request => cases call <;> trivial
      | _ => cases provisions

/-- An error that a request is answered with leaves everything as it was exactly where no call failed
after the first write. -/
theorem answered_atomic (server : Server) (job : Job) (provisions : job.request.provisions = true)
    (envs : List Env) :
    let ended := alone (accessMachine lower) pid envs (server.run job) (World.initial registry)
    (∀ error, ended.1 = some (.error (.api error)) → Unchanged registry ended.2.registry) ↔
      ¬ FailsLate (ended.2.trace pid) := by
  intro ended
  have solo : Solo pid registry ended.2 := by
    apply alone_holds (accessMachine lower) pid Provision (Solo pid registry)
      (fun call env world provision solo => solo_execute lower pid registry call env world provision
        solo) _ (run_provision server job provisions)
    exact
      { untouched := fun _ => rfl
        heavier := Nat.le_refl _
        founded := fun founded => by
          obtain ⟨exchange, member, _⟩ := founded
          cases member
        steady := fun _ _ _ known => by cases known }
  have last := honest_alone (recorded lower) pid (server.run job) (World.initial registry)
    (run_settled server job) envs
  constructor
  · intro kept late
    cases stopped : ended.1 with
    | none =>
        obtain ⟨call, orderly⟩ := last.2 stopped
        exact orderly.smooth provisions late
    | some result =>
        have settled := last.1 result stopped provisions
        obtain ⟨call, failure, steady, known, answers⟩ := settled.failed late
        obtain ⟨error, same⟩ := answers (solo.steady call failure steady known)
        have unchanged := kept error (by rw [stopped, same])
        have more := solo.founded (settled.founded late.wrote)
        have less : weight ended.2.registry = weight registry := by
          simp only [weight, unchanged.organizations, unchanged.consumers, unchanged.subscriptions]
        omega
  · intro smooth error answered
    have settled := last.1 _ answered provisions
    have blank : ¬ Wrote (ended.2.trace pid) := fun wrote =>
      smooth (settled.refused error rfl wrote)
    rw [solo.untouched blank]
    exact ⟨rfl, rfl, rfl, rfl, rfl⟩

end Alone

end SafeCameroon.Access
