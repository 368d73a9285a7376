import SafeCameroon.Aggregate.Matching
import SafeCameroon.Worker.DispatchReports
import SafeCameroon.Worker.MatchingSafety

namespace SafeCameroon

open Process Proc

def Heard (past : List (Exchange deliveryInterface)) (call : Call) (value : call.Res) : Prop :=
  ⟨call, .ok value⟩ ∈ past

def Took (past : List (Exchange deliveryInterface)) (event : ClaimedOutboxEvent) : Prop :=
  ∃ limit events,
    Heard past (.claimUnpublished SubscriptionMatching.alertCreatedEventType limit) events ∧
      event ∈ events

def InHand (past : List (Exchange deliveryInterface)) (delivery : Delivery) : Prop :=
  ∃ limit snapshot claimed, Heard past (.lockAndStart limit snapshot) claimed ∧ delivery ∈ claimed

structure Surveyed (unicode : Text.UnicodeData) (past : List (Exchange deliveryInterface))
    (alertId : AlertId) (alert : Alert) (subscriptions : List Subscription)
    (preferences : ConsumerId → Option DeliveryPreference) : Prop where
  readAlert : Heard past (.findAlert alertId) (some alert)
  readSubscriptions : Heard past .listSubscriptions subscriptions
  readPreferences : ∀ consumerId ∈ matchedConsumers unicode alert subscriptions,
    Heard past (.findPreference consumerId) (preferences consumerId)

/-- What a matching worker persists for an alert after what it has read. -/
def surveyedPlan (setup : WorkerSetup) (fresh : Supply) (alert : Alert)
    (subscriptions : List Subscription) (preferences : ConsumerId → Option DeliveryPreference) :
    List PlannedDelivery :=
  planDeliveries setup.sha256 fresh alert
    (deduplicateByConsumer (evaluateSubscriptions setup.unicode subscriptions alert)) preferences
    RetryPolicy.standard .automated (fresh.part 0 4)

def Handled (setup : WorkerSetup) (past : List (Exchange deliveryInterface)) (alertId : AlertId) :
    Prop :=
  Heard past (.findAlert alertId) none ∨ ∃ fresh alert subscriptions preferences,
    Surveyed setup.unicode past alertId alert subscriptions preferences ∧
      ∀ item ∈ surveyedPlan setup fresh alert subscriptions preferences,
        Heard past (.createPlannedItem item) ()

def Grounded (setup : WorkerSetup) (verified : Option (ChannelType × WebhookEvent))
    (past : List (Exchange deliveryInterface)) : Call → Prop
  | .claimUnpublished eventType _ => eventType = SubscriptionMatching.alertCreatedEventType
  | .markPublished id => ∃ event, Took past event ∧ event.id = id ∧
      Handled setup past ⟨event.aggregateId⟩
  | .findAlert id => (∃ event, Took past event ∧ id = ⟨event.aggregateId⟩) ∨
      ∃ delivery, InHand past delivery ∧ id = delivery.alertId
  | .createPlannedItem item => ∃ alertId fresh alert subscriptions preferences,
      Surveyed setup.unicode past alertId alert subscriptions preferences ∧
        item ∈ surveyedPlan setup fresh alert subscriptions preferences
  | .send deliveryId attempt channel message => ∃ delivery alert consumer,
      InHand past delivery ∧ deliveryId = delivery.id ∧ attempt = delivery.attemptCount ∧
        channel = delivery.channel ∧ Heard past (.findAlert delivery.alertId) (some alert) ∧
        Heard past (.findConsumer delivery.consumerId) consumer ∧
        message = buildOutboundMessage setup.unicode alert delivery (consumer.bind (·.locale))
  | .applyTransition delivery transition => ∃ channel event id before fresh requestId,
      verified = some (channel, event) ∧ event.status = .delivered ∧
        Heard past (.recordIfNew channel event.providerEventId) true ∧
        Heard past (.findSentAttempt event.providerMessageId) (some id) ∧
        Heard past (.findDelivery id) (some before) ∧
        recordDeliveryDelivered fresh before .automated requestId = .ok (delivery, transition)
  | _ => True

section Grows

variable {setup : WorkerSetup} {past later : List (Exchange deliveryInterface)}

theorem Took.grows {event : ClaimedOutboxEvent} (took : Took past event) (grown : past ⊆ later) :
    Took later event := by
  obtain ⟨limit, events, heard, member⟩ := took
  exact ⟨limit, events, grown heard, member⟩

theorem InHand.grows {delivery : Delivery} (held : InHand past delivery) (grown : past ⊆ later) :
    InHand later delivery := by
  obtain ⟨limit, snapshot, claimed, heard, member⟩ := held
  exact ⟨limit, snapshot, claimed, grown heard, member⟩

theorem Surveyed.grows {unicode : Text.UnicodeData} {alertId : AlertId} {alert : Alert}
    {subscriptions : List Subscription} {preferences : ConsumerId → Option DeliveryPreference}
    (surveyed : Surveyed unicode past alertId alert subscriptions preferences)
    (grown : past ⊆ later) : Surveyed unicode later alertId alert subscriptions preferences where
  readAlert := grown surveyed.readAlert
  readSubscriptions := grown surveyed.readSubscriptions
  readPreferences := fun consumerId matched => grown (surveyed.readPreferences consumerId matched)

theorem Handled.grows {alertId : AlertId} (handled : Handled setup past alertId)
    (grown : past ⊆ later) : Handled setup later alertId := by
  rcases handled with gone | ⟨fresh, alert, subscriptions, preferences, surveyed, created⟩
  · exact Or.inl (grown gone)
  · exact Or.inr ⟨fresh, alert, subscriptions, preferences, surveyed.grows grown,
      fun item member => grown (created item member)⟩

theorem Grounded.grows {verified : Option (ChannelType × WebhookEvent)} {call : Call}
    (grounded : Grounded setup verified past call) (grown : past ⊆ later) :
    Grounded setup verified later call := by
  cases call with
  | claimUnpublished eventType limit => exact grounded
  | markPublished id =>
      obtain ⟨event, took, same, handled⟩ := grounded
      exact ⟨event, took.grows grown, same, handled.grows grown⟩
  | findAlert id =>
      rcases grounded with ⟨event, took, same⟩ | ⟨delivery, inHand, same⟩
      · exact Or.inl ⟨event, took.grows grown, same⟩
      · exact Or.inr ⟨delivery, inHand.grows grown, same⟩
  | createPlannedItem item =>
      obtain ⟨alertId, fresh, alert, subscriptions, preferences, surveyed, member⟩ := grounded
      exact ⟨alertId, fresh, alert, subscriptions, preferences, surveyed.grows grown, member⟩
  | send deliveryId attempt channel message =>
      obtain ⟨delivery, alert, consumer, inHand, id, count, same, found, asked, built⟩ := grounded
      exact ⟨delivery, alert, consumer, inHand.grows grown, id, count, same, grown found,
        grown asked, built⟩
  | applyTransition delivery transition =>
      obtain ⟨channel, event, id, before, fresh, requestId, carried, status, recorded, attempted,
        found, result⟩ := grounded
      exact ⟨channel, event, id, before, fresh, requestId, carried, status, grown recorded,
        grown attempted, grown found, result⟩
  | _ => trivial

end Grows

section Programs

variable {setup : WorkerSetup} {verified : Option (ChannelType × WebhookEvent)}

theorem yields_heard (call : Call) (past : List (Exchange deliveryInterface))
    (allowed : Grounded setup verified past call) :
    (ask call).Yields (Grounded setup verified) (fun later value => Heard later call value) past :=
  yields_ask call _ WorkerError.repository past allowed fun _ => List.mem_cons_self

theorem loadPreferences_heard (matched : List ConsumerMatch)
    (distinct : (matched.map (·.consumerId)).Nodup) (past : List (Exchange deliveryInterface)) :
    (SubscriptionMatching.loadPreferences matched).Yields (Grounded setup verified)
      (fun later preferences => (∀ entry ∈ preferences, entry.1 ∈ matched.map (·.consumerId)) ∧
        ∀ consumerMatch ∈ matched, Heard later (.findPreference consumerMatch.consumerId)
          (preferences.lookup consumerMatch.consumerId)) past := by
  induction matched generalizing past with
  | nil =>
      apply yields_done
      simp
  | cons head tail ih =>
      rw [List.map_cons, List.nodup_cons] at distinct
      have reads : (ask (.findPreference head.consumerId)).Yields (Grounded setup verified)
          (fun later value => Heard later (.findPreference head.consumerId) value) past :=
        yields_heard _ past trivial
      refine yields_bind _ _ _ _ past reads ?_
      intro middle preference _ heard
      refine yields_bind _ _ _ _ middle (ih distinct.2 middle) ?_
      intro later preferences grown known
      have others : ∀ consumerMatch ∈ tail, consumerMatch.consumerId ≠ head.consumerId := by
        intro consumerMatch member same
        apply distinct.1
        rw [← same]
        exact List.mem_map_of_mem member
      cases preference with
      | none =>
          apply yields_done
          refine ⟨fun entry member => List.mem_cons_of_mem _ (known.1 entry member), ?_⟩
          intro consumerMatch member
          rcases List.mem_cons.mp member with rfl | inTail
          · cases found : preferences.lookup consumerMatch.consumerId with
            | none => exact grown heard
            | some value =>
                have stored := known.1 _ (mem_of_lookup found)
                exact absurd stored distinct.1
          · exact known.2 consumerMatch inTail
      | some preference =>
          apply yields_done
          constructor
          · intro entry member
            rcases List.mem_cons.mp member with rfl | inRest
            · exact List.mem_cons_self
            · exact List.mem_cons_of_mem _ (known.1 entry inRest)
          · intro consumerMatch member
            rcases List.mem_cons.mp member with rfl | inTail
            · rw [List.lookup_cons_self]
              exact grown heard
            · have differs : (consumerMatch.consumerId == head.consumerId) = false := by
                simp [others consumerMatch inTail]
              rw [List.lookup_cons, differs]
              exact known.2 consumerMatch inTail

theorem matchAndPlan_handled (fresh : Supply) (event : ClaimedOutboxEvent)
    (past : List (Exchange deliveryInterface)) (took : Took past event) :
    (SubscriptionMatching.matchAndPlan setup fresh ⟨event.aggregateId⟩).Yields
      (Grounded setup verified)
      (fun later _ => Handled setup later ⟨event.aggregateId⟩) past := by
  unfold SubscriptionMatching.matchAndPlan
  refine yields_bind _ _ _ _ past (yields_heard _ past (Or.inl ⟨event, took, rfl⟩)) ?_
  intro later found _ heardAlert
  cases found with
  | none => exact yields_done _ _ _ (Or.inl heardAlert)
  | some alert =>
      refine yields_bind _ _ _ _ later (yields_heard _ later trivial) ?_
      intro listed subscriptions grown heardSubscriptions
      have groups := deduplicateByConsumer_groups setup.unicode alert subscriptions
      dsimp only
      split
      · rename_i empty
        apply yields_done
        refine Or.inr ⟨fresh, alert, subscriptions, fun _ => none,
          ⟨grown heardAlert, heardSubscriptions, ?_⟩, ?_⟩
        · have none : matchedConsumers setup.unicode alert subscriptions = [] := by
            simpa [groups, groupsOf] using empty
          simp [none]
        · have none : deduplicateByConsumer
              (evaluateSubscriptions setup.unicode subscriptions alert) = [] := by simpa using empty
          simp [surveyedPlan, none, planDeliveries, planDeliveriesDomain, planTargets]
      · have distinct := matchedConsumers_nodup setup.unicode alert subscriptions
        have names : (deduplicateByConsumer
            (evaluateSubscriptions setup.unicode subscriptions alert)).map (·.consumerId) =
            matchedConsumers setup.unicode alert subscriptions := by
          rw [groups, groupsOf, List.map_map]
          exact List.map_id _
        refine yields_bind _ _ _ _ listed
          (loadPreferences_heard _ (names.symm ▸ distinct) listed) ?_
        intro loaded preferences since known
        have surveyed : Surveyed setup.unicode loaded ⟨event.aggregateId⟩ alert subscriptions
            fun consumerId => preferences.lookup consumerId := by
          refine ⟨since (grown heardAlert), since heardSubscriptions, ?_⟩
          intro consumerId matched
          rw [← names] at matched
          obtain ⟨consumerMatch, member, rfl⟩ := List.mem_map.mp matched
          exact known.2 consumerMatch member
        have creates : (SubscriptionMatching.createPlanned (surveyedPlan setup fresh alert
            subscriptions fun consumerId => preferences.lookup consumerId)).Yields
            (Grounded setup verified) (fun later _ => ∀ item ∈ surveyedPlan setup fresh alert
              subscriptions fun consumerId => preferences.lookup consumerId,
                Heard later (.createPlannedItem item) ()) loaded := by
          refine yields_forEach_all (fun later item => Heard later (.createPlannedItem item) ())
            (fun _ _ _ grown heard => grown heard) _ _ _ ?_
          intro item member now since
          exact yields_heard _ now ⟨_, fresh, alert, subscriptions, _, surveyed.grows since, member⟩
        refine honest_post _ _ ?_ _ _ creates
        intro last result done
        refine ⟨done.1, fun value same => Or.inr ⟨fresh, alert, subscriptions, _,
          surveyed.grows done.1, done.2 value same⟩⟩

theorem matching_grounded (fresh : Supply) (batchSize : Nat)
    (past : List (Exchange deliveryInterface)) :
    (SubscriptionMatching.processBatch setup fresh batchSize).Yields (Grounded setup verified)
      (fun _ _ => True) past := by
  unfold SubscriptionMatching.processBatch
  refine yields_bind _ _ _ _ past (yields_heard _ past rfl) ?_
  intro later events _ heard
  refine yields_bind _ _ _ _ later (yields_forEach_all (fun _ _ => True) (fun _ _ _ _ _ => trivial) _
    events.zipIdx later ?_) ?_
  · intro element member now since
    have took : Took now element.1 :=
      ⟨batchSize, events, since heard, List.fst_mem_of_mem_zipIdx member⟩
    refine yields_bind _ _ _ _ now (matchAndPlan_handled (fresh.part element.2) element.1 now took) ?_
    intro planned _ grown handled
    have marks : Grounded setup verified planned (.markPublished element.1.id) :=
      ⟨element.1, took.grows grown, rfl, handled⟩
    exact yields_weaken _ _ _ _ (yields_heard _ planned marks) fun _ _ _ _ => trivial
  · exact fun _ _ _ _ => yields_done _ _ _ trivial

theorem demand_grounded {α β : Type} (message : String) (result : Except α β)
    (past : List (Exchange deliveryInterface)) :
    (demand message result).Yields (Grounded setup verified) (fun _ _ => True) past := by
  cases result with
  | ok value => exact yields_done _ _ _ trivial
  | error error => exact yields_fail _ _ _

theorem records_grounded (delivery : Delivery) (transition : DeliveryAttemptTransition)
    (past : List (Exchange deliveryInterface)) :
    ((ask (.applyAttemptTransition delivery transition)).bind fun _ => .done ()).Yields
      (Grounded setup verified) (fun _ _ => True) past :=
  yields_perform _ _ _ _ _ trivial fun _ => yields_done _ _ _ trivial

theorem fail_grounded (fresh : Supply) (delivery : Delivery) (operationId : Uuid) (retryable : Bool)
    (reason : String) (past : List (Exchange deliveryInterface)) :
    (Dispatch.fail fresh delivery operationId retryable reason).Yields (Grounded setup verified)
      (fun _ _ => True) past := by
  unfold Dispatch.fail
  refine yields_bind _ _ _ _ past (demand_grounded _ _ past) ?_
  intro later recorded _ _
  exact records_grounded recorded.1 recorded.2 later

theorem dispatchOne_grounded (fresh : Supply) (delivery : Delivery)
    (past : List (Exchange deliveryInterface)) (held : InHand past delivery) :
    (Dispatch.dispatchOne setup fresh delivery).Yields (Grounded setup verified)
      (fun _ _ => True) past := by
  unfold Dispatch.dispatchOne
  split
  · refine yields_bind _ _ _ _ past (yields_heard _ past (Or.inr ⟨delivery, held, rfl⟩)) ?_
    intro later found grown heardAlert
    cases found with
    | none => exact fail_grounded _ _ _ _ _ later
    | some alert =>
        refine yields_bind _ _ _ _ later (yields_heard _ later trivial) ?_
        intro asked consumer since heardConsumer
        refine yields_bind _ _ _ _ asked (yields_heard _ asked ⟨delivery, alert, consumer,
          (held.grows grown).grows since, rfl, rfl, rfl, since heardAlert, heardConsumer, rfl⟩) ?_
        intro sent reply _ _
        cases reply with
        | error error => exact fail_grounded _ _ _ _ _ sent
        | ok outcome =>
            refine yields_bind _ _ _ _ sent (demand_grounded _ _ sent) ?_
            intro last recorded _ _
            exact records_grounded recorded.1 recorded.2 last
  · exact fail_grounded _ _ _ _ _ past

theorem dispatch_grounded (fresh : Supply) (batchSize : Nat)
    (past : List (Exchange deliveryInterface)) :
    (Dispatch.processBatch setup fresh batchSize).Yields (Grounded setup verified)
      (fun _ _ => True) past := by
  have claims : (Dispatch.claimNext batchSize).Yields (Grounded setup verified)
      (fun later claimed => ∀ delivery ∈ claimed, InHand later delivery) past := by
    refine yields_bind _ _ _ _ past (yields_heard _ past trivial) ?_
    intro later snapshot _ _
    refine yields_weaken _ _ _ _ (yields_heard _ later trivial) ?_
    intro last claimed _ heard delivery member
    exact ⟨batchSize, snapshot, claimed, heard, member⟩
  refine yields_bind _ _ _ _ past claims ?_
  intro later claimed _ held
  refine yields_bind _ _ _ _ later (yields_forEach_all (fun _ _ => True) (fun _ _ _ _ _ => trivial) _
    claimed.zipIdx later ?_) ?_
  · intro element member now since
    have inHand := (held element.1 (List.fst_mem_of_mem_zipIdx member)).grows since
    exact dispatchOne_grounded (fresh.part element.2) element.1 now inHand
  · exact fun _ _ _ _ => yields_done _ _ _ trivial

theorem persist_heard (requestId : Uuid) (call : Call) (past : List (Exchange deliveryInterface))
    (allowed : Grounded setup verified past call) :
    (Webhooks.persist requestId call).Yields (Grounded setup verified)
      (fun later value => Heard later call value) past :=
  yields_ask call _ _ past allowed fun _ => List.mem_cons_self

/-- What a verified callback changes goes back to the callback and to what was read after it was
recorded. -/
theorem applyVerified_grounded (fresh : Supply) (requestId : Uuid) (channel : ChannelType)
    (event : WebhookEvent) (carried : verified = some (channel, event))
    (past : List (Exchange deliveryInterface)) :
    (Webhooks.applyVerified fresh requestId channel event).Yields (Grounded setup verified)
      (fun _ _ => True) past := by
  unfold Webhooks.applyVerified
  refine yields_bind _ _ _ _ past (persist_heard requestId _ past trivial) ?_
  intro later isNew _ recorded
  cases isNew with
  | false => exact yields_done _ _ _ trivial
  | true =>
      have finds : (Webhooks.findByProviderMessageId requestId event.providerMessageId).Yields
          (Grounded setup verified) (fun last found => ∀ delivery, found = some delivery →
            ∃ id, Heard last (.findSentAttempt event.providerMessageId) (some id) ∧
              Heard last (.findDelivery id) (some delivery)) later := by
        refine yields_bind _ _ _ _ later (persist_heard requestId _ later trivial) ?_
        intro asked attempted _ heardAttempt
        cases attempted with
        | none => exact yields_done _ _ _ fun delivery same => by cases same
        | some id =>
            refine yields_weaken _ _ _ _ (persist_heard requestId _ asked trivial) ?_
            intro last found grown heard delivery same
            exact ⟨id, grown heardAttempt, same ▸ heard⟩
      refine yields_bind _ _ _ _ later finds ?_
      intro asked found since known
      cases found with
      | none => exact yields_done _ _ _ trivial
      | some delivery =>
          obtain ⟨id, heardAttempt, heardDelivery⟩ := known delivery rfl
          dsimp only
          split
          · exact yields_done _ _ _ trivial
          · rename_i after transition applied
            have grounded : Grounded setup verified asked (.applyTransition after transition) := by
              refine ⟨channel, event, id, delivery, fresh, requestId, carried, ?_⟩
              cases status : event.status with
              | delivered =>
                  simp only [applyWebhookEvent, status, Table.bind_ok, pure, Except.pure,
                    Except.ok.injEq, Prod.mk.injEq] at applied
                  obtain ⟨⟨other, kept⟩, result, rfl, same⟩ := applied
                  obtain rfl := WebhookAppliedTransition.delivered.inj same
                  exact ⟨rfl, since recorded, heardAttempt, heardDelivery, result⟩
              | failed retryable reason =>
                  simp only [applyWebhookEvent, status, Table.bind_ok, pure, Except.pure,
                    Except.ok.injEq, Prod.mk.injEq] at applied
                  obtain ⟨_, _, _, same⟩ := applied
                  cases same
            refine yields_bind _ _ _ _ asked (persist_heard requestId _ asked grounded) ?_
            exact fun _ _ _ _ => yields_done _ _ _ trivial
          · refine yields_bind _ _ _ _ asked (persist_heard requestId _ asked trivial) ?_
            exact fun _ _ _ _ => yields_done _ _ _ trivial

theorem serve_grounded (registry : WebhookVerifierRegistry) (fresh : Supply)
    (request : WebhookRequest) (carried : verified = Webhooks.callback registry fresh request)
    (past : List (Exchange deliveryInterface)) :
    (Webhooks.serve registry fresh request).Yields (Grounded setup verified)
      (fun _ _ => True) past := by
  have handles : (Webhooks.receiveWebhook registry fresh request).Yields (Grounded setup verified)
      (fun _ _ => True) past := by
    unfold Webhooks.receiveWebhook
    dsimp only
    cases authentic : Webhooks.authenticate registry request
        (requestIdFromHeaders (fresh 4) request.headers) with
    | error error => exact yields_fail _ _ _
    | ok callback =>
        apply applyVerified_grounded
        rw [carried, Webhooks.callback, authentic]
        rfl
  have attempts : (Webhooks.receiveWebhook registry fresh request).attempt.Yields
      (ε := HandlerError) (Grounded setup verified) (fun _ _ => True) past := by
    apply honest_attempt
    exact honest_post _ _ (fun _ _ known => ⟨known.1, fun _ _ => trivial⟩) _ _ handles
  unfold Webhooks.serve
  refine yields_bind _ _ _ _ past attempts ?_
  intro later result _ _
  have responds : ∀ status past, (Proc.perform (I := deliveryInterface)
      (.respond (Webhooks.callback registry fresh request) status) fun _ =>
        HandlerError.panicked "the response could not be sent").Yields (Grounded setup verified)
        (fun _ _ => True) past :=
    fun status past => yields_ask _ _ _ past trivial fun _ => trivial
  cases result with
  | ok status => exact responds status later
  | error error =>
      cases error with
      | api error => exact responds error.status later
      | panicked message => exact yields_fail _ _ _

end Programs

def Deployment.verified (deployment : Deployment) : Job → Option (ChannelType × WebhookEvent)
  | .webhook fresh request => Webhooks.callback deployment.registry fresh request
  | _ => none

/-- What the calls of every process go back to; an edit is the request of somebody else. -/
def Deployment.grounds (deployment : Deployment) (jobs : Nat → Job) (pid : Nat)
    (past : List (Exchange deliveryInterface)) (call : Call) : Prop :=
  Grounded deployment.setup (deployment.verified (jobs pid)) past call

theorem pool_grounded (deployment : Deployment) (jobs : Nat → Job) (pid : Nat) :
    (deployment.pool jobs pid).Honest (deployment.grounds jobs pid) (fun _ _ => True) [] := by
  have batch : ∀ program : Worker Nat,
      program.Yields (deployment.grounds jobs pid) (fun _ _ => True) [] →
      ((program.bind fun _ => .done ()).mapError JobError.worker).Honest
        (deployment.grounds jobs pid) (fun _ _ => True) [] := by
    intro program yields
    apply honest_mapError
    refine honest_post _ _ (fun _ _ _ => trivial) _ _
      (yields_bind _ (fun _ _ => True) _ _ _ yields ?_)
    exact fun later _ _ _ => yields_done _ _ _ trivial
  cases job : jobs pid with
  | matching fresh batchSize =>
      simp only [Deployment.pool, job, Deployment.run]
      exact batch _ (matching_grounded fresh batchSize [])
  | dispatch fresh batchSize =>
      simp only [Deployment.pool, job, Deployment.run]
      exact batch _ (dispatch_grounded fresh batchSize [])
  | webhook fresh request =>
      simp only [Deployment.pool, job, Deployment.run]
      apply honest_mapError
      refine honest_post _ _ (fun _ _ _ => trivial) _ _
        (serve_grounded deployment.registry fresh request ?_ [])
      simp only [Deployment.verified, job]
  | edit edit =>
      simp only [Deployment.pool, job, Deployment.run]
      refine ⟨trivial, fun answer => ?_⟩
      cases answer <;> trivial

theorem reach_grounded (deployment : Deployment) (jobs : Nat → Job) (rules : Rules deliveryMachine)
    (init : Db) (config : Pool) (reached : deployment.Reaches jobs rules init config) :
    deployment.Reaches jobs (rules.after recordedCalls (deployment.grounds jobs)) init config := by
  exact reach_after recordedCalls rules (deployment.grounds jobs) (fun _ _ _ => True) _
    (pool_grounded deployment jobs) _ (told_initial _ _ init) config reached

end SafeCameroon
