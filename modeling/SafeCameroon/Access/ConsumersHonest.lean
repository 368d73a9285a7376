import SafeCameroon.Access.Consumers

namespace SafeCameroon.Access

open Process Proc Text

variable {server : Server} {job : Job} {α β : Type} {past : Past}

abbrev Finds (server : Server) (job : Job) (fact : Past → α → Prop) (program : Handler α)
    (past : Past) : Prop :=
  program.Yields (ConsumersProper server job) fact past

theorem finds_ask (error : ApiError) (call : Call) (past : Past)
    (proper : ConsumersProper server job past call) :
    Finds server job (fun later value => Known later call (.ok value)) (orFail error call) past :=
  yields_ask call _ _ past proper fun _ => List.mem_cons_self

theorem finds_refuse (fact : Past → α → Prop) (error : ApiError) :
    Finds server job fact (refuse error) past := yields_fail _ _ _

theorem finds_orFail (fact : Past → β → Prop) (error : ApiError) (call : Call)
    (rest : call.Res → Handler β) (past : Past) (proper : ConsumersProper server job past call)
    (next : ∀ value, Finds server job fact (rest value) (⟨call, .ok value⟩ :: past)) :
    Finds server job fact ((orFail error call).bind rest) past :=
  yields_perform fact call _ rest past proper next

theorem actor_finds (requestId : Uuid) :
    Finds server job (fun _ actor => ∀ reviewerId, actor = .reviewer reviewerId →
        job.caller server = some reviewerId)
      (lift (Incidents.Reviewer.actorFromHeaders server.verify job.headers requestId)) past := by
  have uses : (lift (Incidents.Reviewer.actorFromHeaders server.verify job.headers requestId)).Uses
      fun call => ∃ read, call = Call.incident read ∧ reads read := by
    refine uses_embed _ _ _ _ ?_
    simpa using actorFromHeaders_uses server.verify job.headers requestId
  have honest := honest_uses (ConsumersProper server job) (fun _ => True) _ ?_ ?_ _ uses past trivial
  · have both := honest_and _ _ _ past honest (actorFromHeaders_names job requestId past)
    refine honest_post _ _ ?_ _ _ (honest_allow _ (fun _ _ proper => proper.1) _ _ both)
    intro later result known
    refine ⟨known.1.2, fun value same reviewerId named => known.2 reviewerId ?_⟩
    rw [same, named]
  · intro now call _ chosen
    obtain ⟨read, rfl, only⟩ := chosen
    exact only
  · intro now call answer _ _
    trivial

theorem checkOwner_finds (membership : Membership) (owner : Option OrganizationId)
    (requestId : Uuid) :
    Finds server job (fun later _ => ∀ id, owner = some id → ∃ organization,
        Known later (.incident (.findOrganization id)) (.ok organization) ∧
          ((organization.map (·.isActive)).getD true = true ∨ membership.role = .platformAdmin))
      (Subscriptions.checkOwner membership owner requestId) past := by
  cases owner with
  | none => exact yields_done _ _ _ fun id same => by cases same
  | some id =>
      refine finds_orFail _ _ (.incident (.findOrganization id)) _ past trivial fun organization => ?_
      dsimp only
      split
      · exact finds_refuse _ _
      · rename_i standing
        refine yields_done _ _ _ fun other same => ?_
        cases same
        refine ⟨organization, List.mem_cons_self, ?_⟩
        by_cases admin : membership.role = .platformAdmin
        · exact Or.inr admin
        · have active : ¬ (organization.map (·.isActive)).getD true = false :=
            fun inactive => standing ⟨inactive, admin⟩
          exact Or.inl (by simpa using active)

theorem authorizeConsumerAccess_finds (actor : Actor) (consumerId : ConsumerId) (requestId : Uuid)
    (named : ∀ reviewerId, actor = .reviewer reviewerId → job.caller server = some reviewerId) :
    Finds server job (fun later _ => Manages server job later consumerId)
      (Subscriptions.authorizeConsumerAccess actor consumerId requestId) past := by
  cases actor with
  | automated => exact finds_refuse _ _
  | reviewer reviewerId =>
      refine yields_bind _ _ _ _ past
        (finds_ask _ (.incident (.findMembership reviewerId)) past trivial) ?_
      intro first found _ membership
      refine yields_bind _ _ _ _ first
        (finds_ask _ (.findOrganizationIdByConsumerId consumerId) first trivial) ?_
      intro second owner grown owned
      refine yields_bind _ _ _ _ second (checkOwner_finds _ owner requestId) ?_
      intro third _ further active
      cases allowed : authorizeConsumerManagement (Incidents.Cases.membershipOrNone found) owner with
      | error _ => exact finds_refuse _ _
      | ok _ =>
          refine yields_done _ _ _ ⟨reviewerId, found, owner, named reviewerId rfl, ?_, ?_, active,
            allowed⟩
          · exact (membership.mono grown).mono further
          · exact owned.mono further

theorem managing_finds (fact : Past → α → Prop) (requestId : Uuid) (next : Actor → Handler α)
    (finds : ∀ later actor, (∀ reviewerId, actor = .reviewer reviewerId →
      job.caller server = some reviewerId) → Finds server job fact (next actor) later) :
    Finds server job fact (Subscriptions.managing server.verify job.headers requestId next) past := by
  refine yields_bind _ _ _ _ past (actor_finds requestId) ?_
  intro later actor _ named
  cases authorize actor .manageSubscriptions with
  | error _ => exact finds_refuse _ _
  | ok _ => exact finds later actor named

theorem createSubscription_finds (consumerId : ConsumerId)
    (rules : List Subscriptions.SubscriptionRuleInput) (requestId : Uuid) :
    Finds server job (fun _ _ => True) (Subscriptions.createSubscription server.verify job.fresh
      job.headers consumerId rules requestId) past := by
  refine managing_finds _ requestId _ fun first actor named => ?_
  refine yields_bind _ _ _ _ first (authorizeConsumerAccess_finds actor consumerId requestId named) ?_
  intro second _ _ manages
  cases rules.mapM (Subscriptions.toDomainRule requestId) with
  | error _ => exact finds_refuse _ _
  | ok rules =>
      dsimp only
      cases made : Subscription.new ⟨job.fresh 0⟩ consumerId 1 rules with
      | error _ => exact finds_refuse _ _
      | ok subscription =>
          have theirs := (Subscription.new_ok made).2.1
          refine finds_orFail _ _ (.createSubscription subscription) _ second ?_ fun _ => ?_
          · exact Or.inl (theirs ▸ manages)
          · refine finds_orFail _ _ (.findSubscription _) _ _ trivial fun found => ?_
            cases found with
            | none => exact yields_fail _ _ _
            | some subscription => exact yields_done _ _ _ trivial

theorem updateSubscription_finds (id : SubscriptionId)
    (rules : List Subscriptions.SubscriptionRuleInput) (requestId : Uuid) :
    Finds server job (fun _ _ => True) (Subscriptions.updateSubscription server.verify job.fresh
      job.headers id rules requestId) past := by
  refine managing_finds _ requestId _ fun first actor named => ?_
  refine finds_orFail _ _ (.findSubscription id) _ first trivial fun found => ?_
  cases found with
  | none => exact finds_refuse _ _
  | some before =>
      refine yields_bind _ _ _ _ _ (authorizeConsumerAccess_finds actor _ requestId named) ?_
      intro second _ grown manages
      have read : SubscriptionRead second before := ⟨id, grown List.mem_cons_self⟩
      cases rules.mapM (Subscriptions.toDomainRule requestId) with
      | error _ => exact finds_refuse _ _
      | ok rules =>
          dsimp only
          cases updated : before.updateRules rules with
          | error _ => exact finds_refuse _ _
          | ok subscription =>
              have same := (Subscription.updateRules_ok updated).1
              refine finds_orFail _ _ (.updateSubscription (job.fresh 0) subscription actor requestId)
                _ second ⟨before, read, same, Or.inl manages⟩ fun saved => ?_
              cases saved with
              | false => exact finds_refuse _ _
              | true => exact yields_done _ _ _ trivial

theorem setDeliveryPreference_finds (consumerId : ConsumerId) (strategy : String)
    (channels : List Subscriptions.ChannelEndpointInput) (requestId : Uuid) :
    Finds server job (fun _ _ => True) (Subscriptions.setDeliveryPreference server.verify
      job.headers consumerId strategy channels requestId) past := by
  refine managing_finds _ requestId _ fun first actor named => ?_
  refine yields_bind _ _ _ _ first (authorizeConsumerAccess_finds actor consumerId requestId named) ?_
  intro second _ _ manages
  cases Subscriptions.toPreference requestId strategy channels with
  | error _ => exact finds_refuse _ _
  | ok preference =>
      exact finds_orFail _ _ (.upsertDeliveryPreference consumerId preference) _ second
        (Or.inl manages) fun _ => yields_done _ _ _ trivial

theorem listSubscriptionsForConsumer_finds (consumerId : ConsumerId) (requestId : Uuid) :
    Finds server job (fun later shown => Manages server job later consumerId ∧
        Known later (.incident (.findSubscriptionsByConsumer consumerId)) (.ok shown))
      (Subscriptions.listSubscriptionsForConsumer server.verify job.headers consumerId requestId)
      past := by
  refine managing_finds _ requestId _ fun first actor named => ?_
  refine yields_bind _ _ _ _ first (authorizeConsumerAccess_finds actor consumerId requestId named) ?_
  intro second _ _ manages
  refine yields_weaken _ _ _ second
    (finds_ask _ (.incident (.findSubscriptionsByConsumer consumerId)) second trivial) ?_
  intro later shown grown listed
  exact ⟨manages.mono grown, listed⟩

theorem getDeliveryPreference_finds (consumerId : ConsumerId) (requestId : Uuid) :
    Finds server job (fun later found => Manages server job later consumerId ∧ found.1 = consumerId)
      (Subscriptions.getDeliveryPreference server.verify job.headers consumerId requestId) past := by
  refine managing_finds _ requestId _ fun first actor named => ?_
  refine yields_bind _ _ _ _ first (authorizeConsumerAccess_finds actor consumerId requestId named) ?_
  intro second _ _ manages
  refine finds_orFail _ _ (.findDeliveryPreference consumerId) _ second trivial fun found => ?_
  cases found with
  | none => exact finds_refuse _ _
  | some preference => exact yields_done _ _ _ ⟨manages.mono (List.subset_cons_self _ _), rfl⟩

theorem listAllSubscriptions_finds (limit offset : Option Nat) (requestId : Uuid) :
    Finds server job (fun later shown => ShownAll server job later shown)
      (Subscriptions.listAllSubscriptions server.verify job.headers limit offset requestId) past := by
  refine managing_finds _ requestId _ fun first actor named => ?_
  cases actor with
  | automated => exact finds_refuse _ _
  | reviewer reviewerId =>
      have caller := named reviewerId rfl
      refine finds_orFail _ _ (.incident (.findMembership reviewerId)) _ first trivial fun found => ?_
      have asked : Known (⟨.incident (.findMembership reviewerId), .ok found⟩ :: first)
          (.incident (.findMembership reviewerId)) (.ok found) := List.mem_cons_self
      dsimp only
      split
      · rename_i admin
        refine yields_weaken _ _ _ _ (finds_ask _ (.listAllSubscriptions _ _) _ trivial) ?_
        intro later shown grown _
        exact ⟨reviewerId, found, caller, asked.mono grown, Or.inl admin⟩
      · split
        · exact yields_done _ _ _ ⟨reviewerId, found, caller, asked, Or.inr (Or.inl rfl)⟩
        · rename_i id belongs
          refine finds_orFail _ _ (.incident (.findOrganization id)) _ _ trivial fun organization => ?_
          have later := asked.mono (List.subset_cons_self
            (⟨.incident (.findOrganization id), .ok organization⟩ : Exchange accessInterface) _)
          dsimp only
          split
          · exact yields_done _ _ _ ⟨reviewerId, found, caller, later, Or.inr (Or.inl rfl)⟩
          · rename_i consumerId linked
            obtain ⟨known, rfl, consumer⟩ := Option.bind_eq_some_iff.mp linked
            refine yields_weaken _ _ _ _
              (finds_ask _ (.incident (.findSubscriptionsByConsumer consumerId)) _ trivial) ?_
            intro last shown grown listed
            exact ⟨reviewerId, found, caller, later.mono grown, Or.inr (Or.inr ⟨id, known, consumerId,
              belongs, grown List.mem_cons_self, consumer, listed⟩)⟩

theorem finds_uses (allowed : Call → Prop)
    (proves : ∀ past call, allowed call → ConsumersProper server job past call)
    (program : Handler α) (uses : program.Uses allowed) :
    Finds server job (fun _ _ => True) program past := by
  have honest := honest_uses (ConsumersProper server job) (fun _ => True) allowed
    (fun past call _ chosen => proves past call chosen) (fun _ _ _ _ _ => trivial) program uses past
    trivial
  refine honest_post _ _ ?_ _ _ honest
  intro later result known
  exact ⟨known.2, fun _ _ => trivial⟩

theorem authorizeCitizenSubscription_finds (id : SubscriptionId) (headers : List (String × Bytes))
    (requestId : Uuid) :
    Finds server job (fun later subscription =>
        Known later (.findSubscription id) (.ok (some subscription)) ∧
          TokenRead later subscription.consumerId)
      (CitizenSubscriptions.authorizeCitizenSubscription server.sha256 id headers requestId) past := by
  refine finds_orFail _ _ (.findSubscription id) _ past trivial fun found => ?_
  cases found with
  | none => exact finds_refuse _ _
  | some subscription =>
      dsimp only
      split
      · exact finds_refuse _ _
      · refine finds_orFail _ _ (.managementTokenHash subscription.consumerId) _ _ trivial
          fun stored => ?_
        cases stored with
        | none => exact finds_refuse _ _
        | some storedHash =>
            dsimp only
            split
            · refine yields_done _ _ _ ⟨?_, storedHash, List.mem_cons_self⟩
              exact List.mem_cons_of_mem _ List.mem_cons_self
            · exact finds_refuse _ _

theorem enforceRateLimit_finds (scope : Incidents.RateLimitScope) (headers : List (String × Bytes))
    (requestId : Uuid) :
    Finds server job (fun _ _ => True)
      (lift (Incidents.Reports.enforceRateLimit scope headers requestId)) past := by
  refine finds_uses (fun call => ∃ read, call = Call.incident read ∧ reads read) ?_ _ ?_
  · intro past call chosen
    obtain ⟨read, rfl, only⟩ := chosen
    exact only
  · refine uses_embed _ _ _ _ ?_
    simpa using enforceRateLimit_uses scope headers requestId

theorem createCitizen_finds (request : CitizenSubscriptions.CreateRequest) (requestId : Uuid) :
    Finds server job (fun _ _ => True)
      (CitizenSubscriptions.create server.sha256 job.fresh job.headers request requestId) past := by
  refine yields_bind _ _ _ _ past (enforceRateLimit_finds _ _ _) ?_
  intro first _ _ _
  cases prepares : CitizenSubscriptions.prepare server.sha256 job.fresh request with
  | error _ => exact finds_refuse _ _
  | ok prepared =>
      have theirs := (prepare_first job.fresh prepares).2
      refine finds_orFail _ _ (.createConsumerWithManagementToken prepared.consumer
        prepared.managementTokenHash) _ first trivial fun _ => ?_
      have created : ∀ later : Past, (⟨.createConsumerWithManagementToken prepared.consumer
          prepared.managementTokenHash, .ok ()⟩ : Exchange accessInterface) ∈ later →
          CreatedCitizen later prepared.consumer.id :=
        fun later known => ⟨prepared.consumer, prepared.managementTokenHash, rfl, known⟩
      refine finds_orFail _ _ (.upsertDeliveryPreference _ _) _ _
        (Or.inr (Or.inl (created _ List.mem_cons_self))) fun _ => ?_
      refine finds_orFail _ _ (.createSubscription _) _ _ ?_ fun _ => yields_done _ _ _ trivial
      rw [ConsumersProper, theirs]
      exact Or.inr (created _ (List.mem_cons_of_mem _ List.mem_cons_self))

theorem updateCitizen_finds (id : SubscriptionId) (request : CitizenSubscriptions.UpdateRequest)
    (requestId : Uuid) :
    Finds server job (fun _ _ => True)
      (CitizenSubscriptions.update server.sha256 job.fresh job.headers id request requestId) past := by
  refine yields_bind _ _ _ _ past (authorizeCitizenSubscription_finds id _ _) ?_
  intro first before _ known
  split
  · exact finds_refuse _ _
  · split
    · exact finds_refuse _ _
    · cases updated : before.updateRules (CitizenSubscriptions.updatedRules request) with
      | error _ => exact yields_fail _ _ _
      | ok subscription =>
          obtain ⟨same, theirs, _⟩ := Subscription.updateRules_ok updated
          refine finds_orFail _ _ (.updateSubscription (job.fresh 0) subscription .automated requestId)
            _ first ⟨before, ⟨id, known.1⟩, same, Or.inr known.2⟩ fun saved => ?_
          have token := known.2.mono (List.subset_cons_self (⟨.updateSubscription (job.fresh 0)
            subscription .automated requestId, .ok saved⟩ : Exchange accessInterface) first)
          cases saved with
          | false => exact finds_refuse _ _
          | true =>
              refine yields_bind (fun _ _ => True) _ _ _ _ ?_ fun _ _ _ _ => yields_done _ _ _ trivial
              cases request.pushSubscription with
              | none => exact yields_done _ _ _ trivial
              | some push =>
                  dsimp only [CitizenSubscriptions.updatePreference]
                  split
                  · exact finds_refuse _ _
                  · refine yields_weaken _ _ _ _ (finds_ask _ (.upsertDeliveryPreference _ _) _ ?_)
                      fun _ _ _ _ => trivial
                    rw [ConsumersProper, theirs]
                    exact Or.inr (Or.inr token)

theorem cancelCitizen_finds (id : SubscriptionId) (requestId : Uuid) :
    Finds server job (fun _ _ => True)
      (CitizenSubscriptions.cancel server.sha256 job.headers id requestId) past := by
  refine yields_bind _ _ _ _ past (authorizeCitizenSubscription_finds id _ _) ?_
  intro first before _ known
  exact yields_weaken _ _ _ first (finds_ask _ (.deleteSubscription before.id) first
    ⟨before, ⟨id, known.1⟩, rfl, known.2⟩) fun _ _ _ _ => trivial

theorem getCitizen_finds (id : SubscriptionId) (requestId : Uuid) :
    Finds server job (fun _ _ => True)
      (CitizenSubscriptions.get server.sha256 job.headers id requestId) past :=
  yields_bind _ _ _ _ past (authorizeCitizenSubscription_finds id _ _)
    fun _ _ _ _ => yields_done _ _ _ trivial

theorem Lookup.harmless {call : Call} (lookup : Lookup call) : Harmless call := by
  cases call <;> first | exact lookup | trivial

theorem finds_calls {request : Request} (quiet : ∀ call, request.writes call → Harmless call)
    (program : Handler α) (uses : program.Uses request.calls) :
    Finds server job (fun _ _ => True) program past := by
  refine finds_uses request.calls ?_ program uses
  intro past call made
  rcases made with lookup | writes
  · exact lookup.harmless.proper
  · exact (quiet call writes).proper

def ConsumersEnded (server : Server) (job : Job) (past : Past)
    (result : Except HandlerError Response) : Prop :=
  ∀ response, result = .ok response → ConsumersAnswered server job past response

theorem consumers_orFail (error : ApiError) (call : Call) (rest : call.Res → Handler β) (past : Past)
    (proper : ConsumersProper server job past call)
    (next : ∀ value, (rest value).Honest (ConsumersProper server job) (fun _ _ => True)
      (⟨call, .ok value⟩ :: past)) :
    ((orFail error call).bind rest).Honest (ConsumersProper server job) (fun _ _ => True) past :=
  honest_perform _ call _ rest past proper next fun _ => trivial

theorem createOrganization_honest (name : String) (requestId : Uuid) :
    (Organizations.createOrganization server.verify job.fresh job.headers name requestId).Honest
      (ConsumersProper server job) (fun _ _ => True) [] := by
  have keeps : ∀ (past : Past) (call : Call) (answer : Except Failure call.Res), Unlinked past →
      Harmless call → Unlinked (⟨call, answer⟩ :: past) :=
    fun past call answer unlinked harmless => unlinked.next call answer harmless
  refine honest_bind (fun later _ => Unlinked later) _ _ _ [] ?_ ?_ fun _ _ _ => trivial
  · have honest := honest_uses (ConsumersProper server job) Unlinked Harmless
      (fun _ _ _ harmless => harmless.proper) keeps
      (lift (Incidents.Reviewer.actorFromHeaders server.verify job.headers requestId))
      (actor_uses (fun _ => Lookup.harmless) job.headers requestId) [] fun _ _ _ known => by cases known
    exact honest_post _ _ (fun _ _ known => known.1) _ _ honest
  · intro first actor unlinked
    refine honest_bind (fun later _ => Unlinked later) _ _ _ first ?_ ?_ fun _ _ _ => trivial
    · have honest := honest_uses (ConsumersProper server job) Unlinked Harmless
        (fun _ _ _ harmless => harmless.proper) keeps
        (Organizations.requirePlatformAdmin actor requestId)
        (requirePlatformAdmin_uses (fun _ => Lookup.harmless) requestId actor) first unlinked
      exact honest_post _ _ (fun _ _ known => known.1) _ _ honest
    · intro second _ still
      cases Organization.new ⟨job.fresh 0⟩ name with
      | error _ => trivial
      | ok organization =>
          dsimp only
          cases Consumer.new ⟨job.fresh 1⟩ (trim name) .organization with
          | error _ => trivial
          | ok consumer =>
              refine consumers_orFail _ _ _ second trivial fun _ => ?_
              refine consumers_orFail _ _ _ _ trivial fun _ => ?_
              refine consumers_orFail _ (.setConsumerId organization.id consumer.id) _ _
                ⟨?_, ⟨consumer, rfl, List.mem_cons_self⟩, ?_⟩ fun _ => ?_
              · exact List.mem_cons_of_mem _ List.mem_cons_self
              · intro another answer
                have unsaved := still.next (Call.createOrganization organization.id) (.ok ()) trivial
                have unlinked := unsaved.next (Call.createConsumer consumer) (.ok ()) trivial
                exact unlinked organization.id another answer
              · refine consumers_orFail _ (.incident (.findOrganization organization.id)) _ _ trivial
                  fun found => ?_
                cases found <;> trivial

theorem run_consumers (server : Server) (job : Job) :
    (server.run job).Honest (ConsumersProper server job) (ConsumersEnded server job) [] := by
  have ends : ∀ {α : Type} (program : Handler α) (wrap : α → Response) (fact : Past → α → Prop),
      Finds server job fact program [] →
      (∀ past value, fact past value → ConsumersAnswered server job past (wrap value)) →
      (program.bind fun value => .done (wrap value)).Honest (ConsumersProper server job)
        (ConsumersEnded server job) [] := by
    intro α program wrap fact finds answers
    refine honest_bind _ _ _ _ [] finds ?_ ?_
    · intro past value known response same
      cases same
      exact answers past value (known.2 value rfl)
    · intro past error _ response same
      cases same
  have silent : ∀ past response, (∀ id, job.request ≠ .listSubscriptionsForConsumer id) →
      (∀ id, job.request ≠ .getDeliveryPreference id) →
      (∀ limit offset, job.request ≠ .listAllSubscriptions limit offset) →
      ConsumersAnswered server job past response := by
    intro past response one two three
    unfold ConsumersAnswered
    split
    · rename_i id made
      exact absurd made (one id)
    · rename_i id made
      exact absurd made (two id)
    · rename_i limit offset made
      exact absurd made (three limit offset)
    · trivial
  unfold Server.run
  cases made : job.request with
  | register request =>
      refine ends _ _ _ (finds_calls (fun call writes => ?_) _ (register_uses _ _ _ _))
        fun past value _ => silent past _ (by simp [made]) (by simp [made]) (by simp [made])
      cases call <;> trivial
  | googleLogin idToken =>
      refine ends _ _ _ (finds_calls (fun call writes => ?_) _ (googleLogin_uses _ _ _ _))
        fun past value _ => silent past _ (by simp [made]) (by simp [made]) (by simp [made])
      cases call <;> trivial
  | setOrganizationActive id isActive =>
      refine ends _ _ _ (finds_calls (fun call writes => ?_) _ (setOrganizationActive_uses _ _ _ _))
        fun past value _ => silent past _ (by simp [made]) (by simp [made]) (by simp [made])
      cases call <;> trivial
  | createOrganization name =>
      refine honest_bind _ _ _ _ [] (createOrganization_honest name job.requestId) ?_ ?_
      · intro past value _ response _
        exact silent past response (by simp [made]) (by simp [made]) (by simp [made])
      · intro past error _ response same
        cases same
  | createSubscription consumerId rules =>
      exact ends _ _ _ (createSubscription_finds consumerId rules _) fun past value _ =>
        silent past _ (by simp [made]) (by simp [made]) (by simp [made])
  | updateSubscription id rules =>
      exact ends _ _ _ (updateSubscription_finds id rules _) fun past value _ =>
        silent past _ (by simp [made]) (by simp [made]) (by simp [made])
  | setDeliveryPreference consumerId strategy channels =>
      exact ends _ _ _ (setDeliveryPreference_finds consumerId strategy channels _)
        fun past value _ => silent past _ (by simp [made]) (by simp [made]) (by simp [made])
  | createCitizenSubscription request =>
      exact ends _ _ _ (createCitizen_finds request _) fun past value _ =>
        silent past _ (by simp [made]) (by simp [made]) (by simp [made])
  | getCitizenSubscription id =>
      exact ends _ _ _ (getCitizen_finds id _) fun past value _ =>
        silent past _ (by simp [made]) (by simp [made]) (by simp [made])
  | updateCitizenSubscription id request =>
      exact ends _ _ _ (updateCitizen_finds id request _) fun past value _ =>
        silent past _ (by simp [made]) (by simp [made]) (by simp [made])
  | cancelCitizenSubscription id =>
      exact ends _ _ _ (cancelCitizen_finds id _) fun past value _ =>
        silent past _ (by simp [made]) (by simp [made]) (by simp [made])
  | listSubscriptionsForConsumer consumerId =>
      refine ends _ _ _ (listSubscriptionsForConsumer_finds consumerId _) fun past shown known => ?_
      simp only [ConsumersAnswered, made]
      exact ⟨known.1, shown, rfl, known.2⟩
  | getDeliveryPreference consumerId =>
      refine ends _ _ _ (getDeliveryPreference_finds consumerId _) fun past found known => ?_
      simp only [ConsumersAnswered, made]
      exact ⟨known.1, found.2, by rw [known.2]⟩
  | listAllSubscriptions limit offset =>
      refine ends _ _ _ (listAllSubscriptions_finds limit offset _) fun past shown known => ?_
      simp only [ConsumersAnswered, made]
      exact ⟨shown, rfl, known⟩

end SafeCameroon.Access
