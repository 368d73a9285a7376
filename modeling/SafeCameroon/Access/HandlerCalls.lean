import SafeCameroon.Access.Effects

namespace SafeCameroon.Access

open Process Proc Text

def Lookup : Call → Prop
  | .incident shared => reads shared
  | .findReviewerByEmail _ | .findOrganizationIdByConsumerId _ | .managementTokenHash _
  | .findSubscription _ | .listAllSubscriptions _ _ | .findDeliveryPreference _ => True
  | _ => False

def Request.writes : Request → Call → Prop
  | .register _, .countReviewers | .register _, .createReviewer _ _
  | .register _, .addMembership _ _ _ | .register _, .recordReviewerAudit _ _ _ _ _
  | .googleLogin _, .recordReviewerAudit _ _ _ _ _ => True
  | .createOrganization _, .createOrganization _ | .createOrganization _, .createConsumer _
  | .createOrganization _, .setConsumerId _ _ => True
  | .setOrganizationActive id isActive, .setActive other active => other = id ∧ active = isActive
  | .createSubscription consumerId _, .createSubscription subscription =>
      subscription.consumerId = consumerId ∧ subscription.version = 1
  | .updateSubscription _ rules, .updateSubscription _ _ _ _ => rules ≠ []
  | .setDeliveryPreference consumerId _ _, .upsertDeliveryPreference other _ => other = consumerId
  | .createCitizenSubscription _, .createConsumerWithManagementToken _ _
  | .createCitizenSubscription _, .upsertDeliveryPreference _ _ => True
  | .createCitizenSubscription _, .createSubscription subscription => subscription.version = 1
  | .updateCitizenSubscription _ _, .updateSubscription _ _ _ _
  | .updateCitizenSubscription _ _, .upsertDeliveryPreference _ _ => True
  | .cancelCitizenSubscription _, .deleteSubscription _ => True
  | _, _ => False

def Request.calls (request : Request) (call : Call) : Prop := Lookup call ∨ request.writes call

theorem actorFromHeaders_uses (verify : String → Option Incidents.VerifiedSession)
    (headers : List (String × Bytes)) (requestId : Uuid) :
    (Incidents.Reviewer.actorFromHeaders verify headers requestId).Uses reads := by
  unfold Incidents.Reviewer.actorFromHeaders
  split
  · trivial
  · split
    · trivial
    · split
      · trivial
      · refine uses_bind _ _ _ (uses_perform _ _ _ trivial) fun revoked => ?_
        cases revoked <;> trivial

theorem enforceRateLimit_uses (scope : Incidents.RateLimitScope) (headers : List (String × Bytes))
    (requestId : Uuid) : (Incidents.Reports.enforceRateLimit scope headers requestId).Uses reads := by
  refine uses_bind _ _ _ (uses_perform _ _ _ trivial) fun within => ?_
  cases within <;> trivial

variable {server : Server} {α : Type}

section Parts

variable {allowed : Call → Prop} (lookups : ∀ call, Lookup call → allowed call)
  (headers : List (String × Bytes)) (requestId : Uuid)

theorem orFail_uses (error : ApiError) {call : Call} (may : allowed call) :
    (orFail error call).Uses allowed := uses_perform _ _ _ may

include lookups

theorem lift_uses {handler : Incidents.Handler α} (uses : handler.Uses reads) :
    (lift handler).Uses allowed :=
  uses_embed _ _ _ _ (uses_mono (fun call only => lookups (.incident call) only) handler uses)

theorem actor_uses :
    (lift (Incidents.Reviewer.actorFromHeaders server.verify headers requestId)).Uses allowed :=
  lift_uses lookups (actorFromHeaders_uses server.verify headers requestId)

theorem requirePlatformAdmin_uses (actor : Actor) :
    (Organizations.requirePlatformAdmin actor requestId).Uses allowed := by
  cases actor with
  | automated => trivial
  | reviewer reviewerId =>
      have may := lookups (.incident (.findMembership reviewerId)) trivial
      refine uses_bind _ _ _ (orFail_uses _ may) fun membership => ?_
      split <;> trivial

theorem authorizeConsumerAccess_uses (actor : Actor) (consumerId : ConsumerId) :
    (Subscriptions.authorizeConsumerAccess actor consumerId requestId).Uses allowed := by
  cases actor with
  | automated => trivial
  | reviewer reviewerId =>
      have membership := lookups (.incident (.findMembership reviewerId)) trivial
      refine uses_bind _ _ _ (orFail_uses _ membership) fun membership => ?_
      have owner := lookups (.findOrganizationIdByConsumerId consumerId) trivial
      refine uses_bind _ _ _ (orFail_uses _ owner) fun owner => ?_
      refine uses_bind _ _ _ ?_ fun _ => ?_
      · cases owner with
        | none => trivial
        | some owner =>
            have organization := lookups (.incident (.findOrganization owner)) trivial
            refine uses_bind _ _ _ (orFail_uses _ organization) fun organization => ?_
            dsimp only
            split <;> trivial
      · split <;> trivial

theorem managing_uses (next : Actor → Handler α) (uses : ∀ actor, (next actor).Uses allowed) :
    (Subscriptions.managing server.verify headers requestId next).Uses allowed := by
  refine uses_bind _ _ _ (actor_uses lookups headers requestId) fun actor => ?_
  cases authorize actor .manageSubscriptions with
  | error _ => trivial
  | ok _ => exact uses actor

theorem authorizeCitizenSubscription_uses (id : SubscriptionId) :
    (CitizenSubscriptions.authorizeCitizenSubscription server.sha256 id headers requestId).Uses
      allowed := by
  refine uses_bind _ _ _ (orFail_uses _ (lookups (.findSubscription id) trivial)) fun found => ?_
  cases found with
  | none => trivial
  | some subscription =>
      dsimp only
      split
      · trivial
      · have token := lookups (.managementTokenHash subscription.consumerId) trivial
        refine uses_bind _ _ _ (orFail_uses _ token) fun storedHash => ?_
        cases storedHash with
        | none => trivial
        | some storedHash =>
            dsimp only
            split <;> trivial

end Parts

section Handlers

variable (fresh : Supply) (headers : List (String × Bytes)) (requestId : Uuid)

theorem lookups (request : Request) (call : Call) (lookup : Lookup call) : request.calls call :=
  Or.inl lookup

theorem register_uses (request : Auth.RegisterRequest) :
    (Auth.register server.verify fresh headers request requestId).Uses
      (Request.register request).calls := by
  refine uses_bind _ _ _ (actor_uses (lookups _) headers requestId) fun actor => ?_
  refine uses_bind _ _ _ (orFail_uses _ (Or.inr trivial)) fun count => ?_
  cases Auth.requestedMembership count request requestId with
  | error _ => trivial
  | ok wanted =>
      obtain ⟨role, organizationId⟩ := wanted
      refine uses_bind _ _ _ ?_ fun granter => ?_
      · cases actor with
        | automated => trivial
        | reviewer reviewerId => exact orFail_uses _ (Or.inl trivial)
      · cases authorizeMembershipGrant granter count role organizationId with
        | error _ => trivial
        | ok _ =>
            refine uses_bind _ _ _ ?_ fun _ => ?_
            · cases organizationId with
              | none => trivial
              | some id =>
                  refine uses_bind _ _ _ (orFail_uses _ (Or.inl trivial)) fun found => ?_
                  cases found with
                  | none => trivial
                  | some organization =>
                      dsimp only
                      split <;> trivial
            · split
              · refine uses_bind _ _ _ (orFail_uses _ (Or.inr trivial)) fun outcome => ?_
                cases outcome with
                | emailAlreadyRegistered => trivial
                | created =>
                    refine uses_bind _ _ _ (orFail_uses _ (Or.inr trivial)) fun _ => ?_
                    exact uses_bind _ _ _ (orFail_uses _ (Or.inr trivial)) fun _ => trivial
              · trivial

theorem googleLogin_uses (idToken : String) :
    (Auth.googleLogin server.unicode server.verifyIdToken fresh headers idToken requestId).Uses
      (Request.googleLogin idToken).calls := by
  refine uses_bind _ _ _ (lift_uses (lookups _) (enforceRateLimit_uses _ _ _)) fun _ => ?_
  cases server.verifyIdToken idToken with
  | none => trivial
  | some identity =>
      refine uses_bind _ _ _ (orFail_uses _ (Or.inl trivial)) fun found => ?_
      cases found with
      | none => exact uses_bind _ _ _ (orFail_uses _ (Or.inr trivial)) fun _ => trivial
      | some reviewerId =>
          refine uses_bind _ _ _ (orFail_uses _ (Or.inr trivial)) fun _ => ?_
          refine uses_bind _ _ _ (orFail_uses _ (Or.inl trivial)) fun membership => ?_
          cases membership <;> trivial

theorem createOrganization_uses (name : String) :
    (Organizations.createOrganization server.verify fresh headers name requestId).Uses
      (Request.createOrganization name).calls := by
  refine uses_bind _ _ _ (actor_uses (lookups _) headers requestId) fun actor => ?_
  refine uses_bind _ _ _ (requirePlatformAdmin_uses (lookups _) requestId actor) fun _ => ?_
  cases Organization.new ⟨fresh 0⟩ name with
  | error _ => trivial
  | ok organization =>
      dsimp only
      cases Consumer.new ⟨fresh 1⟩ (trim name) .organization with
      | error _ => trivial
      | ok consumer =>
          refine uses_bind _ _ _ (orFail_uses _ (Or.inr trivial)) fun _ => ?_
          refine uses_bind _ _ _ (orFail_uses _ (Or.inr trivial)) fun _ => ?_
          refine uses_bind _ _ _ (orFail_uses _ (Or.inr trivial)) fun _ => ?_
          refine uses_bind _ _ _ (orFail_uses _ (Or.inl trivial)) fun found => ?_
          cases found <;> trivial

theorem setOrganizationActive_uses (id : OrganizationId) (isActive : Bool) :
    (Organizations.setOrganizationActive server.verify headers id isActive requestId).Uses
      (Request.setOrganizationActive id isActive).calls := by
  refine uses_bind _ _ _ (actor_uses (lookups _) headers requestId) fun actor => ?_
  refine uses_bind _ _ _ (requirePlatformAdmin_uses (lookups _) requestId actor) fun _ => ?_
  refine uses_bind _ _ _ (orFail_uses _ (Or.inl trivial)) fun found => ?_
  cases found with
  | none => trivial
  | some organization =>
      refine uses_bind _ _ _ (orFail_uses _ (Or.inr ⟨rfl, rfl⟩)) fun _ => ?_
      refine uses_bind _ _ _ (orFail_uses _ (Or.inl trivial)) fun found => ?_
      cases found <;> trivial

theorem createSubscription_uses (consumerId : ConsumerId)
    (rules : List Subscriptions.SubscriptionRuleInput) :
    (Subscriptions.createSubscription server.verify fresh headers consumerId rules requestId).Uses
      (Request.createSubscription consumerId rules).calls := by
  refine managing_uses (lookups _) headers requestId _ fun actor => ?_
  refine uses_bind _ _ _ (authorizeConsumerAccess_uses (lookups _) requestId actor _) fun _ => ?_
  cases rules.mapM (Subscriptions.toDomainRule requestId) with
  | error _ => trivial
  | ok rules =>
      dsimp only
      cases made : Subscription.new ⟨fresh 0⟩ consumerId 1 rules with
      | error _ => trivial
      | ok subscription =>
          obtain ⟨_, theirs, _, first⟩ := Subscription.new_ok made
          refine uses_bind _ _ _ (orFail_uses _ (Or.inr ⟨theirs, first⟩)) fun _ => ?_
          refine uses_bind _ _ _ (orFail_uses _ (Or.inl trivial)) fun found => ?_
          cases found <;> trivial

theorem updateSubscription_uses (id : SubscriptionId)
    (rules : List Subscriptions.SubscriptionRuleInput) :
    (Subscriptions.updateSubscription server.verify fresh headers id rules requestId).Uses
      (Request.updateSubscription id rules).calls := by
  refine managing_uses (lookups _) headers requestId _ fun actor => ?_
  refine uses_bind _ _ _ (orFail_uses _ (Or.inl trivial)) fun found => ?_
  cases found with
  | none => trivial
  | some before =>
      refine uses_bind _ _ _ (authorizeConsumerAccess_uses (lookups _) requestId actor _) fun _ => ?_
      cases read : rules.mapM (Subscriptions.toDomainRule requestId) with
      | error _ => trivial
      | ok chosen =>
          dsimp only
          cases updated : before.updateRules chosen with
          | error _ => trivial
          | ok subscription =>
              have nonempty : rules ≠ [] := by
                intro empty
                obtain rfl : chosen = [] := by simpa [empty, pure, Except.pure, eq_comm] using read
                simp [Subscription.updateRules] at updated
              refine uses_bind _ _ _ (orFail_uses _ (Or.inr nonempty)) fun saved => ?_
              cases saved <;> trivial

theorem listAllSubscriptions_uses (limit offset : Option Nat) :
    (Subscriptions.listAllSubscriptions server.verify headers limit offset requestId).Uses
      (Request.listAllSubscriptions limit offset).calls := by
  refine managing_uses (lookups _) headers requestId _ fun actor => ?_
  cases actor with
  | automated => trivial
  | reviewer reviewerId =>
      refine uses_bind _ _ _ (orFail_uses _ (Or.inl trivial)) fun membership => ?_
      dsimp only
      split
      · exact orFail_uses _ (Or.inl trivial)
      · split
        · trivial
        · refine uses_bind _ _ _ (orFail_uses _ (Or.inl trivial)) fun organization => ?_
          split
          · trivial
          · exact orFail_uses _ (Or.inl trivial)

theorem listSubscriptionsForConsumer_uses (consumerId : ConsumerId) :
    (Subscriptions.listSubscriptionsForConsumer server.verify headers consumerId requestId).Uses
      (Request.listSubscriptionsForConsumer consumerId).calls := by
  refine managing_uses (lookups _) headers requestId _ fun actor => ?_
  refine uses_bind _ _ _ (authorizeConsumerAccess_uses (lookups _) requestId actor _) fun _ => ?_
  exact orFail_uses _ (Or.inl trivial)

theorem setDeliveryPreference_uses (consumerId : ConsumerId) (strategy : String)
    (channels : List Subscriptions.ChannelEndpointInput) :
    (Subscriptions.setDeliveryPreference server.verify headers consumerId strategy channels
      requestId).Uses (Request.setDeliveryPreference consumerId strategy channels).calls := by
  refine managing_uses (lookups _) headers requestId _ fun actor => ?_
  refine uses_bind _ _ _ (authorizeConsumerAccess_uses (lookups _) requestId actor _) fun _ => ?_
  cases Subscriptions.toPreference requestId strategy channels with
  | error _ => trivial
  | ok preference => exact uses_bind _ _ _ (orFail_uses _ (Or.inr rfl)) fun _ => trivial

theorem getDeliveryPreference_uses (consumerId : ConsumerId) :
    (Subscriptions.getDeliveryPreference server.verify headers consumerId requestId).Uses
      (Request.getDeliveryPreference consumerId).calls := by
  refine managing_uses (lookups _) headers requestId _ fun actor => ?_
  refine uses_bind _ _ _ (authorizeConsumerAccess_uses (lookups _) requestId actor _) fun _ => ?_
  refine uses_bind _ _ _ (orFail_uses _ (Or.inl trivial)) fun found => ?_
  cases found <;> trivial

theorem prepare_first {request : CitizenSubscriptions.CreateRequest}
    {prepared : PreparedCitizenSubscription}
    (prepares : CitizenSubscriptions.prepare server.sha256 fresh request = .ok prepared) :
    prepared.subscription.version = 1 ∧
      prepared.subscription.consumerId = prepared.consumer.id := by
  simp only [CitizenSubscriptions.prepare, prepareCitizenSubscription] at prepares
  split at prepares
  · cases prepares
  · split at prepares
    · cases prepares
    · split at prepares
      · cases prepares
      · simp only [Except.ok.injEq] at prepares
        subst prepares
        exact ⟨rfl, rfl⟩

theorem createCitizenSubscription_uses (request : CitizenSubscriptions.CreateRequest) :
    (CitizenSubscriptions.create server.sha256 fresh headers request requestId).Uses
      (Request.createCitizenSubscription request).calls := by
  refine uses_bind _ _ _ (lift_uses (lookups _) (enforceRateLimit_uses _ _ _)) fun _ => ?_
  cases prepares : CitizenSubscriptions.prepare server.sha256 fresh request with
  | error _ => trivial
  | ok prepared =>
      have first := (prepare_first fresh prepares).1
      refine uses_bind _ _ _ (orFail_uses _ (Or.inr trivial)) fun _ => ?_
      refine uses_bind _ _ _ (orFail_uses _ (Or.inr trivial)) fun _ => ?_
      exact uses_bind _ _ _ (orFail_uses _ (Or.inr first)) fun _ => trivial

theorem updateCitizenSubscription_uses (id : SubscriptionId)
    (request : CitizenSubscriptions.UpdateRequest) :
    (CitizenSubscriptions.update server.sha256 fresh headers id request requestId).Uses
      (Request.updateCitizenSubscription id request).calls := by
  refine uses_bind _ _ _ (authorizeCitizenSubscription_uses (lookups _) headers requestId id)
    fun before => ?_
  split
  · trivial
  · split
    · trivial
    · cases before.updateRules (CitizenSubscriptions.updatedRules request) with
      | error _ => trivial
      | ok subscription =>
          refine uses_bind _ _ _ (orFail_uses _ (Or.inr trivial)) fun updated => ?_
          cases updated with
          | false => trivial
          | true =>
              refine uses_bind _ _ _ ?_ fun _ => trivial
              cases request.pushSubscription with
              | none => trivial
              | some push =>
                  dsimp only [CitizenSubscriptions.updatePreference]
                  split
                  · trivial
                  · exact orFail_uses _ (Or.inr trivial)

theorem cancelCitizenSubscription_uses (id : SubscriptionId) :
    (CitizenSubscriptions.cancel server.sha256 headers id requestId).Uses
      (Request.cancelCitizenSubscription id).calls := by
  refine uses_bind _ _ _ (authorizeCitizenSubscription_uses (lookups _) headers requestId id)
    fun _ => ?_
  exact orFail_uses _ (Or.inr trivial)

theorem getCitizenSubscription_uses (id : SubscriptionId) :
    (CitizenSubscriptions.get server.sha256 headers id requestId).Uses
      (Request.getCitizenSubscription id).calls :=
  uses_bind _ _ _ (authorizeCitizenSubscription_uses (lookups _) headers requestId id)
    fun _ => trivial

end Handlers

theorem run_calls (server : Server) (job : Job) : (server.run job).Uses job.request.calls := by
  unfold Server.run
  cases job.request with
  | register request => exact uses_bind _ _ _ (register_uses _ _ _ _) fun _ => trivial
  | googleLogin idToken => exact uses_bind _ _ _ (googleLogin_uses _ _ _ _) fun _ => trivial
  | createOrganization name =>
      exact uses_bind _ _ _ (createOrganization_uses _ _ _ _) fun _ => trivial
  | setOrganizationActive id isActive =>
      exact uses_bind _ _ _ (setOrganizationActive_uses _ _ _ _) fun _ => trivial
  | createSubscription consumerId rules =>
      exact uses_bind _ _ _ (createSubscription_uses _ _ _ _ _) fun _ => trivial
  | updateSubscription id rules =>
      exact uses_bind _ _ _ (updateSubscription_uses _ _ _ _ _) fun _ => trivial
  | listSubscriptionsForConsumer consumerId =>
      exact uses_bind _ _ _ (listSubscriptionsForConsumer_uses _ _ _) fun _ => trivial
  | listAllSubscriptions limit offset =>
      exact uses_bind _ _ _ (listAllSubscriptions_uses _ _ _ _) fun _ => trivial
  | setDeliveryPreference consumerId strategy channels =>
      exact uses_bind _ _ _ (setDeliveryPreference_uses _ _ _ _ _) fun _ => trivial
  | getDeliveryPreference consumerId =>
      exact uses_bind _ _ _ (getDeliveryPreference_uses _ _ _) fun _ => trivial
  | createCitizenSubscription request =>
      exact uses_bind _ _ _ (createCitizenSubscription_uses _ _ _ _) fun _ => trivial
  | getCitizenSubscription id =>
      exact uses_bind _ _ _ (getCitizenSubscription_uses _ _ _) fun _ => trivial
  | updateCitizenSubscription id request =>
      exact uses_bind _ _ _ (updateCitizenSubscription_uses _ _ _ _ _) fun _ => trivial
  | cancelCitizenSubscription id =>
      exact uses_bind _ _ _ (cancelCitizenSubscription_uses _ _ _) fun _ => trivial

end SafeCameroon.Access
