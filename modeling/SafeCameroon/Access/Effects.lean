import SafeCameroon.Access.Requests

namespace SafeCameroon.Access

open Table Process

def reads : Incidents.Call → Prop
  | .recordAndCheck _ _ | .isSessionRevoked _ _ | .findMembership _ | .findOrganization _
  | .findSubscriptionsByConsumer _ | .findAlert _ => True
  | _ => False

def Call.Plain : Call → Prop
  | .incident call => reads call
  | _ => True

theorem reads_unchanged (env : Env) (call : Incidents.Call) (db : Db) (reading : reads call) :
    (Incidents.runCall env call db).2 = db := by
  cases call <;> first | rfl | cases reading

def Call.effective : (call : Call) → Except Failure call.Res → Bool
  | .createReviewer _ _, .ok .created => true
  | .recordReviewerAudit _ _ _ _ _, .ok _ => true
  | .addMembership _ _ _, .ok _ => true
  | .createOrganization _, .ok _ => true
  | .setActive _ _, .ok _ => true
  | .setConsumerId _ _, .ok _ => true
  | .createConsumer _, .ok _ => true
  | .createConsumerWithManagementToken _ _, .ok _ => true
  | .createSubscription _, .ok _ => true
  | .updateSubscription _ _ _ _, .ok true => true
  | .deleteSubscription _, .ok _ => true
  | .upsertDeliveryPreference _ _, .ok _ => true
  | .recordAlertViewed _ _ _ _, .ok _ => true
  | _, _ => false

def Registry.with (registry : Registry) (change : Db → Db) : Registry :=
  { registry with tables := change registry.tables }

inductive Effect (lower : PostgresReviewerRepository.Lower) (env : Env) (registry : Registry) :
    (call : Call) → Except Failure call.Res → Registry → Prop where
  | idle {call : Call} {answer : Except Failure call.Res} (idle : call.effective answer = false) :
      Effect lower env registry call answer registry
  | reviewerCreated {id : Uuid} {email : String}
      (unused : ∀ row ∈ registry.reviewers, row.id ≠ id ∧ lower row.email ≠ lower email) :
      Effect lower env registry (.createReviewer id email) (.ok .created)
        { registry with reviewers := registry.reviewers ++ [{ id, email }] }
  | audited {call : Call} {answer : Except Failure call.Res} (auditEvents : List AuditRow)
      (quiet : (∃ id actor action resource request,
          call = .recordReviewerAudit id actor action resource request) ∨
        ∃ id actor resource request, call = .recordAlertViewed id actor resource request) :
      Effect lower env registry call answer
        (Registry.with registry fun db => { db with auditEvents })
  | memberAdded {reviewerId : Uuid} {role : Role} {organizationId : Option OrganizationId}
      (known : reviewerId ∈ registry.reviewers.map (·.id))
      (shaped : membershipShape role organizationId = true)
      (unused : reviewerId ∉ registry.tables.memberships.map (·.reviewerId)) :
      Effect lower env registry (.addMembership reviewerId role organizationId) (.ok ())
        (Registry.with registry fun db =>
          { db with memberships := db.memberships ++ [{ reviewerId, role, organizationId }] })
  | organizationCreated {id : OrganizationId}
      (unused : id ∉ registry.tables.organizations.map (·.id)) :
      Effect lower env registry (.createOrganization id) (.ok ())
        (Registry.with registry fun db => { db with
          organizations := db.organizations ++ [PostgresOrganizationRepository.newRow id] })
  | activeSet {id : OrganizationId} {isActive : Bool} :
      Effect lower env registry (.setActive id isActive) (.ok ())
        (Registry.with registry (PostgresOrganizationRepository.update id fun row =>
          { row with isActive }))
  | linked {id : OrganizationId} {consumerId : ConsumerId}
      (known : consumerId ∈ registry.tables.consumers.map (·.id))
      (free : ∀ row ∈ registry.tables.organizations, row.consumerId = some consumerId → row.id = id) :
      Effect lower env registry (.setConsumerId id consumerId) (.ok ())
        (Registry.with registry (PostgresOrganizationRepository.update id fun row =>
          { row with consumerId := some consumerId }))
  | consumerCreated {consumer : Consumer}
      (unused : consumer.id ∉ registry.tables.consumers.map (·.id)) :
      Effect lower env registry (.createConsumer consumer) (.ok ())
        (Registry.with registry fun db => { db with
          consumers := db.consumers ++ [{ id := consumer.id, locale := consumer.locale }] })
  | citizenCreated {consumer : Consumer} {managementTokenHash : Bytes}
      (unused : consumer.id ∉ registry.tables.consumers.map (·.id)) :
      Effect lower env registry (.createConsumerWithManagementToken consumer managementTokenHash)
        (.ok ()) { registry with
          tables := { registry.tables with
            consumers := registry.tables.consumers ++
              [{ id := consumer.id, locale := consumer.locale }] }
          managementTokenHashes := registry.managementTokenHashes ++
            [(consumer.id, managementTokenHash)] }
  | subscriptionCreated {subscription : Subscription}
      (unused : subscription.id ∉ registry.tables.subscriptions.map (·.subscription.id)) :
      Effect lower env registry (.createSubscription subscription) (.ok ())
        (Registry.with registry fun db => { db with
          subscriptions := db.subscriptions ++ [{ subscription, createdAt := env.now }] })
  | subscriptionUpdated {auditEventId : Uuid} {subscription : Subscription} {actor : Actor}
      {requestId : Uuid} (auditEvents : List AuditRow)
      (single : registry.tables.subscriptions.countP
        (PostgresSubscriptionRepository.outdated subscription) = 1) :
      Effect lower env registry (.updateSubscription auditEventId subscription actor requestId)
        (.ok true) (Registry.with registry fun db => { db with
          subscriptions := updateWhere (PostgresSubscriptionRepository.outdated subscription)
            (PostgresSubscriptionRepository.revised subscription) db.subscriptions
          auditEvents })
  | subscriptionDeleted {id : SubscriptionId} :
      Effect lower env registry (.deleteSubscription id) (.ok ())
        (Registry.with registry fun db => { db with
          subscriptions := db.subscriptions.filter fun row => row.subscription.id ≠ id })
  | preferenceSet {consumerId : ConsumerId} {preference : DeliveryPreference} :
      Effect lower env registry (.upsertDeliveryPreference consumerId preference) (.ok ())
        (Registry.with registry fun db => { db with
          deliveryPreferences := (consumerId, preference) ::
            db.deliveryPreferences.filter fun row => row.1 ≠ consumerId })

variable (lower : PostgresReviewerRepository.Lower) (env : Env) (registry : Registry)

theorem effect_inTables {call : Call} (body : Db → Except Failure (Ending Db call.Res))
    (runs : runCall lower env call registry =
      transaction env.fault .database (inTables body) registry)
    (failed : ∀ error, call.effective (.error error) = false)
    (commits : ∀ value after, body registry.tables = .ok (.commit value after) →
      Effect lower env registry call (.ok value) (Registry.with registry fun _ => after))
    (rolls : ∀ value, body registry.tables = .ok (.rollback value) →
      call.effective (.ok value) = false) :
    Effect lower env registry call (runCall lower env call registry).1
      (runCall lower env call registry).2 := by
  rw [runs]
  rcases transaction_cases env.fault Failure.database (inTables body) registry with
    ⟨error, _, ended⟩ | ⟨value, result, ended⟩ | ⟨value, after, result, ended⟩
  · rw [ended]
    exact .idle (failed error)
  · rw [ended]
    cases made : body registry.tables with
    | error error => simp [inTables, made, Except.map] at result
    | ok ending =>
        cases ending with
        | commit other final => simp [inTables, made, Except.map, Ending.map] at result
        | rollback other =>
            obtain rfl : other = value := by
              simpa [inTables, made, Except.map, Ending.map] using result
            exact .idle (rolls other made)
  · rw [ended]
    cases made : body registry.tables with
    | error error => simp [inTables, made, Except.map] at result
    | ok ending =>
        cases ending with
        | rollback other => simp [inTables, made, Except.map, Ending.map] at result
        | commit other final =>
            simp only [inTables, made, Except.map, Ending.map, Except.ok.injEq, id_eq,
              Ending.commit.injEq] at result
            obtain ⟨rfl, rfl⟩ := result
            exact commits other final made

theorem effect_query {call : Call} (unchanged : (runCall lower env call registry).2 = registry)
    (silent : ∀ answer, call.effective answer = false) :
    Effect lower env registry call (runCall lower env call registry).1
      (runCall lower env call registry).2 := by
  rw [unchanged]
  exact .idle (silent _)

theorem runCall_effect (call : Call) (plain : call.Plain) :
    Effect lower env registry call (runCall lower env call registry).1
      (runCall lower env call registry).2 := by
  cases call with
  | incident call =>
      refine effect_query lower env registry ?_ fun _ => rfl
      simp only [runCall, reads_unchanged env call registry.tables plain]
  | countReviewers => exact effect_query lower env registry rfl fun _ => rfl
  | findReviewerByEmail email => exact effect_query lower env registry rfl fun _ => rfl
  | findOrganizationIdByConsumerId id => exact effect_query lower env registry rfl fun _ => rfl
  | managementTokenHash id => exact effect_query lower env registry rfl fun _ => rfl
  | findSubscription id => exact effect_query lower env registry rfl fun _ => rfl
  | listAllSubscriptions limit offset => exact effect_query lower env registry rfl fun _ => rfl
  | findDeliveryPreference consumerId => exact effect_query lower env registry rfl fun _ => rfl
  | listAlerts filter limit offset => exact effect_query lower env registry rfl fun _ => rfl
  | createReviewer id email =>
      simp only [runCall]
      rcases transaction_cases env.fault Failure.database
        (PostgresReviewerRepository.create lower id email) registry with
        ⟨error, _, ended⟩ | ⟨value, result, ended⟩ | ⟨value, after, result, ended⟩
      · rw [ended]
        exact .idle rfl
      · rw [ended]
        simp only [PostgresReviewerRepository.create] at result
        split at result
        · simp at result
        · split at result
          · simp only [Except.ok.injEq, Ending.rollback.injEq] at result
            subst result
            exact .idle rfl
          · simp at result
      · rw [ended]
        simp only [PostgresReviewerRepository.create] at result
        split at result
        · simp at result
        · split at result
          · simp at result
          · rename_i free
            simp only [Except.ok.injEq, Ending.commit.injEq] at result
            obtain ⟨rfl, rfl⟩ := result
            refine .reviewerCreated fun row member => ?_
            have others := List.any_eq_false.mp (Bool.eq_false_iff.mpr free) row member
            simpa using others
  | recordReviewerAudit auditEventId actor action resourceId requestId =>
      refine effect_inTables lower env registry _ rfl (fun _ => rfl) ?_ ?_
      · intro value after result
        simp only [PostgresReviewerRepository.recordAuditEvent, bind_ok, pure, Except.pure,
          Except.ok.injEq, Ending.commit.injEq] at result
        obtain ⟨auditEvents, _, _, rfl⟩ := result
        exact .audited auditEvents (Or.inl ⟨_, _, _, _, _, rfl⟩)
      · intro value result
        simp [PostgresReviewerRepository.recordAuditEvent, bind_ok, pure, Except.pure] at result
  | addMembership reviewerId role organizationId =>
      by_cases known : reviewerId ∈ registry.reviewers.map (·.id)
      · have present : addMembership reviewerId role organizationId registry =
            inTables (PostgresOrganizationRepository.addMembership reviewerId role organizationId)
              registry := by
          rw [addMembership, if_neg (not_not_intro known)]
        refine effect_inTables lower env registry
          (PostgresOrganizationRepository.addMembership reviewerId role organizationId) ?_
          (fun _ => rfl) ?_ ?_
        · simp only [runCall, transaction, present]
        · intro value after result
          obtain ⟨rfl, shaped, unused⟩ :=
            PostgresOrganizationRepository.addMembership_ok reviewerId role organizationId result
          exact .memberAdded known shaped unused
        · intro value result
          simp only [PostgresOrganizationRepository.addMembership] at result
          split at result
          · simp at result
          · split at result
            · simp at result
            · simp [bind_ok, pure, Except.pure] at result
      · have refused : addMembership reviewerId role organizationId registry = .error .database := by
          rw [addMembership, if_pos known]
        rcases transaction_cases env.fault Failure.database
          (addMembership reviewerId role organizationId) registry with
          ⟨error, _, ended⟩ | ⟨value, result, _⟩ | ⟨value, after, result, _⟩
        · simp only [runCall, ended]
          exact .idle rfl
        · simp [refused] at result
        · simp [refused] at result
  | createOrganization id =>
      refine effect_inTables lower env registry _ rfl (fun _ => rfl) ?_ ?_
      · intro value after result
        obtain ⟨rfl, unused⟩ := PostgresOrganizationRepository.create_ok id result
        exact .organizationCreated unused
      · intro value result
        simp [PostgresOrganizationRepository.create, bind_ok, pure, Except.pure] at result
  | setActive id isActive =>
      refine effect_inTables lower env registry
        (PostgresOrganizationRepository.setActive id isActive) rfl (fun _ => rfl) ?_ ?_
      · intro value after result
        obtain rfl := PostgresOrganizationRepository.setActive_ok id isActive result
        exact .activeSet
      · intro value result
        simp [PostgresOrganizationRepository.setActive] at result
  | setConsumerId id consumerId =>
      refine effect_inTables lower env registry _ rfl (fun _ => rfl) ?_ ?_
      · intro value after result
        obtain ⟨rfl, known, free⟩ :=
          PostgresOrganizationRepository.setConsumerId_ok id consumerId result
        exact .linked known free
      · intro value result
        simp only [PostgresOrganizationRepository.setConsumerId] at result
        split at result
        · simp at result
        · split at result <;> simp at result
  | createConsumer consumer =>
      refine effect_inTables lower env registry _ rfl (fun _ => rfl) ?_ ?_
      · intro value after result
        obtain ⟨rfl, unused⟩ := PostgresConsumerRepository.create_ok _ result
        exact .consumerCreated unused
      · intro value result
        simp [PostgresConsumerRepository.create, bind_ok, pure, Except.pure] at result
  | createConsumerWithManagementToken consumer managementTokenHash =>
      simp only [runCall]
      rcases transaction_cases env.fault Failure.database
        (PostgresConsumerRepository.createWithManagementToken consumer managementTokenHash)
        registry with
        ⟨error, _, ended⟩ | ⟨value, result, ended⟩ | ⟨value, after, result, ended⟩
      · rw [ended]
        exact .idle rfl
      · simp [PostgresConsumerRepository.createWithManagementToken, bind_ok, pure,
          Except.pure] at result
      · rw [ended]
        simp only [PostgresConsumerRepository.createWithManagementToken, bind_ok, pure, Except.pure,
          Except.ok.injEq, Ending.commit.injEq] at result
        obtain ⟨consumers, inserted, _, rfl⟩ := result
        obtain ⟨rfl, unused⟩ := insertUnique_ok _ _ _ _ _ inserted
        exact .citizenCreated unused
  | createSubscription subscription =>
      refine effect_inTables lower env registry _ rfl (fun _ => rfl) ?_ ?_
      · intro value after result
        obtain ⟨rfl, unused⟩ := PostgresSubscriptionRepository.create_ok _ _ result
        exact .subscriptionCreated unused
      · intro value result
        simp [PostgresSubscriptionRepository.create, bind_ok, pure, Except.pure] at result
  | updateSubscription auditEventId subscription actor requestId =>
      refine effect_inTables lower env registry _ rfl (fun _ => rfl) ?_ ?_
      · intro value after result
        obtain ⟨rfl, single, same⟩ :=
          PostgresSubscriptionRepository.update_ok auditEventId subscription actor requestId result
        rw [same]
        exact .subscriptionUpdated after.auditEvents single
      · intro value result
        obtain rfl :=
          PostgresSubscriptionRepository.update_rollback auditEventId subscription actor requestId
            result
        rfl
  | deleteSubscription id =>
      refine effect_inTables lower env registry
        (PostgresSubscriptionRepository.delete id) rfl (fun _ => rfl) ?_ ?_
      · intro value after result
        simp only [PostgresSubscriptionRepository.delete, Except.ok.injEq,
          Ending.commit.injEq] at result
        obtain ⟨_, rfl⟩ := result
        exact .subscriptionDeleted
      · intro value result
        simp [PostgresSubscriptionRepository.delete] at result
  | upsertDeliveryPreference consumerId preference =>
      refine effect_inTables lower env registry
        (PostgresDeliveryPreferenceRepository.upsert consumerId preference) rfl (fun _ => rfl) ?_ ?_
      · intro value after result
        simp only [PostgresDeliveryPreferenceRepository.upsert, Except.ok.injEq,
          Ending.commit.injEq] at result
        obtain ⟨_, rfl⟩ := result
        exact .preferenceSet
      · intro value result
        simp [PostgresDeliveryPreferenceRepository.upsert] at result
  | recordAlertViewed auditEventId actorId resourceId requestId =>
      refine effect_inTables lower env registry _ rfl (fun _ => rfl) ?_ ?_
      · intro value after result
        simp only [PostgresAuditEventRepository.record, bind_ok, pure, Except.pure, Except.ok.injEq,
          Ending.commit.injEq] at result
        obtain ⟨auditEvents, _, _, rfl⟩ := result
        exact .audited auditEvents (Or.inr ⟨_, _, _, _, rfl⟩)
      · intro value result
        simp [PostgresAuditEventRepository.record, bind_ok, pure, Except.pure] at result

theorem transaction_database {α : Type} (body : Db → Except Failure (Ending Db α))
    (fails : ∀ failure, body registry.tables = .error failure → failure = .database)
    {failure : Failure}
    (failed : (transaction env.fault .database (inTables body) registry).1 = .error failure) :
    failure = .database := by
  cases transaction_cases env.fault .database (inTables body) registry with
  | inl errored =>
      obtain ⟨error, reason, ended⟩ := errored
      have same : error = failure := by
        rw [ended] at failed
        exact Except.error.inj failed
      cases reason with
      | inl fault => rw [← same, fault]
      | inr raised =>
          cases made : body registry.tables with
          | ok ending =>
              rw [inTables, made] at raised
              cases raised
          | error other =>
              rw [inTables, made] at raised
              rw [← same, ← Except.error.inj raised]
              exact fails other made
  | inr succeeded =>
      cases succeeded with
      | inl rolled =>
          obtain ⟨_, _, ended⟩ := rolled
          rw [ended] at failed
          cases failed
      | inr committed =>
          obtain ⟨_, _, _, ended⟩ := committed
          rw [ended] at failed
          cases failed

end SafeCameroon.Access
