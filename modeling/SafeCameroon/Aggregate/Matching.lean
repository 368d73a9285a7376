import SafeCameroon.Aggregate.Tiers

namespace SafeCameroon

open Text

def Comparison.Holds : Comparison → Nat → Nat → Prop
  | .greaterThan, left, right => right < left
  | .greaterThanOrEqual, left, right => right ≤ left
  | .equal, left, right => left = right
  | .lessThanOrEqual, left, right => left ≤ right
  | .lessThan, left, right => left < right

def SubscriptionRule.Holds (unicode : UnicodeData) (alert : Alert) : SubscriptionRule → Prop
  | .incidentType values => alert.incidentType ∈ values
  | .severity operator value => operator.Holds alert.severity.rank value.rank
  | .eventType values => alert.trigger ∈ values
  | .geography areas => ∃ area ∈ areas, (unicode.toLowercase area.text).toList <:+:
      (unicode.toLowercase alert.targetGeography.text).toList
  | .visibility values => alert.visibility ∈ values

def Subscription.Matches (unicode : UnicodeData) (alert : Alert) (subscription : Subscription) : Prop :=
  ∀ rule ∈ subscription.rules, rule.Holds unicode alert

theorem Comparison.evaluate_iff (operator : Comparison) (left right : Nat) :
    operator.evaluate left right = true ↔ operator.Holds left right := by
  cases operator <;> simp [evaluate, Holds]

theorem evaluateRule_iff (unicode : UnicodeData) (rule : SubscriptionRule) (alert : Alert) :
    (evaluateRule unicode rule alert).matched = true ↔ rule.Holds unicode alert := by
  cases rule with
  | incidentType values => simp [evaluateRule, SubscriptionRule.Holds]
  | severity operator value => exact operator.evaluate_iff _ _
  | eventType values => simp [evaluateRule, SubscriptionRule.Holds]
  | geography areas =>
      simp [evaluateRule, SubscriptionRule.Holds, GeoArea.matchesTarget, contains]
  | visibility values => simp [evaluateRule, SubscriptionRule.Holds]

theorem evaluateSubscription_iff (unicode : UnicodeData) (subscription : Subscription)
    (alert : Alert) : (evaluateSubscription unicode subscription alert).matched = true ↔
      subscription.Matches unicode alert := by
  simp [evaluateSubscription, Subscription.Matches, evaluateRule_iff]

instance (unicode : UnicodeData) (alert : Alert) :
    DecidablePred (Subscription.Matches unicode alert) := fun subscription =>
  decidable_of_iff _ (evaluateSubscription_iff unicode subscription alert)

def matchingOf (unicode : UnicodeData) (alert : Alert) (subscriptions : List Subscription)
    (consumerId : ConsumerId) : List MatchedSubscription :=
  (subscriptions.filter fun subscription =>
    subscription.consumerId = consumerId ∧ subscription.Matches unicode alert).map
      fun subscription =>
        { subscriptionId := subscription.id, subscriptionVersion := subscription.version }

def matchedConsumers (unicode : UnicodeData) (alert : Alert) (subscriptions : List Subscription) :
    List ConsumerId :=
  ((subscriptions.filter fun subscription => subscription.Matches unicode alert).map
    (·.consumerId)).eraseDups

def groupsOf (consumers : List ConsumerId) (matched : ConsumerId → List MatchedSubscription) :
    List ConsumerMatch :=
  consumers.map fun consumerId => { consumerId, matchingSubscriptions := matched consumerId }

theorem addMatch_groupsOf (consumerId : ConsumerId) (added : MatchedSubscription)
    (consumers : List ConsumerId) (matched : ConsumerId → List MatchedSubscription)
    (distinct : consumers.Nodup) (unmatched : consumerId ∉ consumers → matched consumerId = []) :
    addMatch consumerId added (groupsOf consumers matched) =
      groupsOf (if consumerId ∈ consumers then consumers else consumers ++ [consumerId])
        fun other => if other = consumerId then matched other ++ [added] else matched other := by
  induction consumers with
  | nil =>
      have none : matched consumerId = [] := unmatched List.not_mem_nil
      simp [groupsOf, addMatch, none]
  | cons head tail ih =>
      rw [List.nodup_cons] at distinct
      by_cases same : head = consumerId
      · subst same
        have others : ∀ other ∈ tail, other ≠ head := fun other member equal =>
          distinct.1 (equal ▸ member)
        simp only [groupsOf, List.map_cons, addMatch, if_true, List.mem_cons, true_or,
          List.cons.injEq, true_and]
        apply List.map_congr_left
        intro other member
        simp [others other member]
      · have rest := ih distinct.2 fun absent => unmatched (by simp [Ne.symm same, absent])
        simp only [groupsOf] at rest
        have shape : (if consumerId ∈ head :: tail then head :: tail else head :: tail ++ [consumerId]) =
            head :: if consumerId ∈ tail then tail else tail ++ [consumerId] := by
          by_cases member : consumerId ∈ tail <;> simp [member, Ne.symm same]
        simp only [groupsOf, List.map_cons, addMatch, same, if_false, rest, shape]

theorem eraseDups_snoc {α : Type} [DecidableEq α] (values : List α) (value : α) :
    (values ++ [value]).eraseDups =
      if value ∈ values then values.eraseDups else values.eraseDups ++ [value] := by
  have single : [value].eraseDups = [value] := by simp [List.eraseDups_cons]
  rw [List.eraseDups_append]
  by_cases member : value ∈ values <;> simp [member, List.removeAll, single]

theorem nodup_eraseDups {α : Type} [DecidableEq α] (values : List α) : values.eraseDups.Nodup := by
  induction values using List.reverseRecOn with
  | nil => exact List.nodup_nil
  | append_singleton values value ih =>
      rw [eraseDups_snoc]
      by_cases member : value ∈ values
      · simp only [member, if_true]
        exact ih
      · simp only [member, if_false]
        refine List.nodup_append.mpr ⟨ih, List.nodup_singleton value, ?_⟩
        intro earlier inFirst last inLast same
        rw [List.mem_singleton.mp inLast] at same
        rw [same, List.mem_eraseDups] at inFirst
        exact member inFirst

section Matched

variable (unicode : UnicodeData) (alert : Alert) (subscriptions : List Subscription)

theorem mem_matchedConsumers (consumerId : ConsumerId) :
    consumerId ∈ matchedConsumers unicode alert subscriptions ↔
      ∃ subscription ∈ subscriptions, subscription.consumerId = consumerId ∧
        subscription.Matches unicode alert := by
  simp only [matchedConsumers, List.mem_eraseDups, List.mem_map, List.mem_filter, decide_eq_true_eq]
  constructor
  · intro ⟨subscription, ⟨member, holds⟩, same⟩
    exact ⟨subscription, member, same, holds⟩
  · intro ⟨subscription, member, same, holds⟩
    exact ⟨subscription, ⟨member, holds⟩, same⟩

theorem matchedConsumers_nodup : (matchedConsumers unicode alert subscriptions).Nodup :=
  nodup_eraseDups _

theorem matchingOf_unmatched (consumerId : ConsumerId)
    (absent : consumerId ∉ matchedConsumers unicode alert subscriptions) :
    matchingOf unicode alert subscriptions consumerId = [] := by
  have empty : (subscriptions.filter fun subscription => subscription.consumerId = consumerId ∧
      subscription.Matches unicode alert) = [] := by
    rw [List.filter_eq_nil_iff]
    intro subscription member selected
    rw [decide_eq_true_eq] at selected
    exact absent ((mem_matchedConsumers unicode alert subscriptions consumerId).mpr
      ⟨subscription, member, selected⟩)
  rw [matchingOf, empty]
  rfl

theorem matched_snoc (subscription : Subscription)
    (holds : subscription.Matches unicode alert) :
    groupsOf (matchedConsumers unicode alert (subscriptions ++ [subscription]))
        (matchingOf unicode alert (subscriptions ++ [subscription])) =
      addMatch subscription.consumerId
        { subscriptionId := subscription.id, subscriptionVersion := subscription.version }
        (groupsOf (matchedConsumers unicode alert subscriptions)
          (matchingOf unicode alert subscriptions)) := by
  rw [addMatch_groupsOf _ _ _ _ (matchedConsumers_nodup unicode alert subscriptions)
    (matchingOf_unmatched unicode alert subscriptions subscription.consumerId)]
  have consumers : matchedConsumers unicode alert (subscriptions ++ [subscription]) =
      if subscription.consumerId ∈ matchedConsumers unicode alert subscriptions then
        matchedConsumers unicode alert subscriptions
      else matchedConsumers unicode alert subscriptions ++ [subscription.consumerId] := by
    have last : [subscription].filter (fun subscription => subscription.Matches unicode alert) =
        [subscription] := by simp [holds]
    simp only [matchedConsumers, List.filter_append, last, List.map_append, List.map_cons,
      List.map_nil, eraseDups_snoc, List.mem_eraseDups]
  have matched : matchingOf unicode alert (subscriptions ++ [subscription]) = fun other =>
      if other = subscription.consumerId then matchingOf unicode alert subscriptions other ++
        [{ subscriptionId := subscription.id, subscriptionVersion := subscription.version }]
      else matchingOf unicode alert subscriptions other := by
    funext other
    by_cases own : other = subscription.consumerId
    · simp [matchingOf, List.filter_append, holds, own]
    · simp [matchingOf, List.filter_append, own, Ne.symm own]
  rw [consumers, matched]

theorem deduplicateByConsumer_groups :
    deduplicateByConsumer (evaluateSubscriptions unicode subscriptions alert) =
      groupsOf (matchedConsumers unicode alert subscriptions)
        (matchingOf unicode alert subscriptions) := by
  induction subscriptions using List.reverseRecOn with
  | nil => rfl
  | append_singleton subscriptions subscription ih =>
      simp only [deduplicateByConsumer, evaluateSubscriptions] at ih
      simp only [deduplicateByConsumer, evaluateSubscriptions, List.map_append, List.filter_append,
        List.foldl_append, ih]
      by_cases holds : subscription.Matches unicode alert
      · rw [matched_snoc unicode alert subscriptions subscription holds]
        have selected := (evaluateSubscription_iff unicode subscription alert).mpr holds
        simp only [List.map_cons, List.map_nil, List.filter_cons, selected, if_true, List.filter_nil,
          List.foldl_cons, List.foldl_nil]
        rfl
      · have skipped : (evaluateSubscription unicode subscription alert).matched = false := by
          rw [← Bool.not_eq_true, evaluateSubscription_iff]
          exact holds
        have consumers : matchedConsumers unicode alert (subscriptions ++ [subscription]) =
            matchedConsumers unicode alert subscriptions := by
          simp [matchedConsumers, List.filter_append, holds]
        have matched : matchingOf unicode alert (subscriptions ++ [subscription]) =
            matchingOf unicode alert subscriptions := by
          funext other
          simp [matchingOf, List.filter_append, holds]
        rw [consumers, matched]
        simp [skipped]

end Matched

/-- What distinguishes one planned delivery of an alert from another. -/
structure PlanRow where
  consumerId : ConsumerId
  channel : ChannelType
  endpointAddress : String
  tier : Nat
  matchingSubscriptions : List MatchedSubscription
  deriving DecidableEq

def Delivery.planRow (delivery : Delivery) : PlanRow :=
  { consumerId := delivery.consumerId, channel := delivery.channel
    endpointAddress := delivery.endpointAddress, tier := delivery.tier
    matchingSubscriptions := delivery.matchingSubscriptions }

def rowsOf (matched : List MatchedSubscription) (consumerId : ConsumerId) :
    Option DeliveryPreference → List PlanRow
  | none => []
  | some preference => preference.channels.zipIdx.map fun (endpoint, index) =>
      { consumerId, channel := endpoint.channel, endpointAddress := endpoint.address
        tier := preference.tierAt index, matchingSubscriptions := matched }

def dueRows (unicode : UnicodeData) (alert : Alert) (subscriptions : List Subscription)
    (preferences : ConsumerId → Option DeliveryPreference) : List PlanRow :=
  (matchedConsumers unicode alert subscriptions).flatMap fun consumerId =>
    rowsOf (matchingOf unicode alert subscriptions consumerId) consumerId (preferences consumerId)

def Due (unicode : UnicodeData) (alert : Alert) (subscriptions : List Subscription)
    (preferences : ConsumerId → Option DeliveryPreference) (consumerId : ConsumerId)
    (endpoint : ChannelEndpoint) : Prop :=
  (∃ subscription ∈ subscriptions, subscription.consumerId = consumerId ∧
    subscription.Matches unicode alert) ∧
  ∃ preference, preferences consumerId = some preference ∧ endpoint ∈ preference.channels

theorem DeliveryPreference.tiers_zipIdx (preference : DeliveryPreference) :
    preference.tiers = preference.channels.zipIdx.map fun (endpoint, index) =>
      (preference.tierAt index, endpoint) := by
  apply List.ext_getElem?
  intro index
  rw [tiers_getElem?]
  simp only [List.getElem?_map, List.getElem?_zipIdx, Nat.zero_add, Option.map_map]
  rfl

theorem planOne_rows (fresh : Supply) (alertId : AlertId) (targets : List PlanTarget)
    (policy : RetryPolicy) :
    (targets.zipIdx.map fun pair =>
      Delivery.planOne (fresh.part pair.2) alertId pair.1.consumerMatch.consumerId
        pair.1.endpoint pair.1.tier pair.1.consumerMatch.matchingSubscriptions policy).map
          (fun planned => planned.1.planRow) =
      targets.map fun target =>
        { consumerId := target.consumerMatch.consumerId, channel := target.endpoint.channel
          endpointAddress := target.endpoint.address, tier := target.tier
          matchingSubscriptions := target.consumerMatch.matchingSubscriptions } := by
  conv => rhs; rw [← List.zipIdx_map_fst 0 targets, List.map_map]
  rw [List.map_map]
  rfl

section Plan

variable (unicode : UnicodeData) (alert : Alert) (subscriptions : List Subscription)
  (preferences : ConsumerId → Option DeliveryPreference)

theorem planDeliveriesDomain_rows (fresh : Supply) (policy : RetryPolicy) :
    (planDeliveriesDomain fresh alert (deduplicateByConsumer
      (evaluateSubscriptions unicode subscriptions alert)) preferences policy).map
        (fun planned => planned.1.planRow) = dueRows unicode alert subscriptions preferences := by
  refine (planOne_rows fresh alert.id _ policy).trans ?_
  rw [deduplicateByConsumer_groups, groupsOf, planTargets, List.flatMap_map, List.map_flatMap,
    dueRows]
  congr 1
  funext consumerId
  cases stored : preferences consumerId with
  | none => rfl
  | some preference => simp [preference.tiers_zipIdx, Function.comp_def, rowsOf]

theorem mem_rowsOf (matched : List MatchedSubscription) (consumerId : ConsumerId)
    (stored : Option DeliveryPreference) (row : PlanRow) :
    row ∈ rowsOf matched consumerId stored ↔ ∃ preference index, ∃ endpoint : ChannelEndpoint,
      stored = some preference ∧ preference.channels[index]? = some endpoint ∧
      row = { consumerId, channel := endpoint.channel, endpointAddress := endpoint.address
              tier := preference.tierAt index, matchingSubscriptions := matched } := by
  cases stored with
  | none => simp [rowsOf]
  | some preference =>
      simp only [rowsOf, List.mem_map]
      constructor
      · intro ⟨⟨endpoint, index⟩, listed, same⟩
        exact ⟨preference, index, endpoint, rfl, List.mem_zipIdx_iff_getElem?.mp listed, same.symm⟩
      · intro ⟨other, index, endpoint, same, listed, written⟩
        obtain rfl := Option.some.inj same
        exact ⟨(endpoint, index), List.mem_zipIdx_iff_getElem?.mpr listed, written.symm⟩

theorem dueRows_distinct : ((dueRows unicode alert subscriptions preferences).map fun row =>
    (row.consumerId, row.channel)).Nodup := by
  rw [dueRows, List.map_flatMap, List.nodup_flatMap]
  constructor
  · intro consumerId _
    cases preferences consumerId with
    | none => exact List.nodup_nil
    | some preference =>
        have channels : (preference.channels.zipIdx.map fun entry => entry.1.channel) =
            preference.channels.map (·.channel) := by
          conv => rhs; rw [← List.zipIdx_map_fst 0 preference.channels, List.map_map]
          rfl
        have distinct := preference.distinct
        rw [← channels] at distinct
        refine List.Nodup.of_map Prod.snd ?_
        rw [rowsOf, List.map_map, List.map_map]
        exact distinct
  · refine List.Pairwise.imp ?_ (matchedConsumers_nodup unicode alert subscriptions)
    intro first second differs
    have own : ∀ consumerId pair, pair ∈ (rowsOf (matchingOf unicode alert subscriptions consumerId)
        consumerId (preferences consumerId)).map (fun row => (row.consumerId, row.channel)) →
          pair.1 = consumerId := by
      intro consumerId pair member
      obtain ⟨row, inRows, rfl⟩ := List.mem_map.mp member
      obtain ⟨_, _, _, _, _, rfl⟩ := (mem_rowsOf _ _ _ row).mp inRows
      rfl
    intro pair inFirst inSecond
    exact differs ((own first pair inFirst).symm.trans (own second pair inSecond))

theorem mem_dueRows (row : PlanRow) : row ∈ dueRows unicode alert subscriptions preferences ↔
    ∃ preference index, ∃ endpoint : ChannelEndpoint,
      (∃ subscription ∈ subscriptions, subscription.consumerId = row.consumerId ∧
        subscription.Matches unicode alert) ∧
      preferences row.consumerId = some preference ∧ preference.channels[index]? = some endpoint ∧
      row.channel = endpoint.channel ∧ row.endpointAddress = endpoint.address ∧
      row.tier = preference.tierAt index ∧
      row.matchingSubscriptions = matchingOf unicode alert subscriptions row.consumerId := by
  simp only [dueRows, List.mem_flatMap, mem_matchedConsumers, mem_rowsOf]
  constructor
  · intro ⟨consumerId, matched, preference, index, endpoint, stored, listed, same⟩
    subst same
    exact ⟨preference, index, endpoint, matched, stored, listed, rfl, rfl, rfl, rfl⟩
  · intro ⟨preference, index, endpoint, matched, stored, listed, channel, address, tier, reasons⟩
    refine ⟨row.consumerId, matched, preference, index, endpoint, stored, listed, ?_⟩
    rw [← channel, ← address, ← tier, ← reasons]

end Plan

structure PlannedAsDue (unicode : UnicodeData) (alert : Alert) (subscriptions : List Subscription)
    (preferences : ConsumerId → Option DeliveryPreference)
    (planned : List (Delivery × DeliveryEvent)) : Prop where
  rows : planned.map (fun entry => entry.1.planRow) = dueRows unicode alert subscriptions preferences
  once : ∀ consumerId endpoint, Due unicode alert subscriptions preferences consumerId endpoint →
    (planned.map fun entry => (entry.1.consumerId, entry.1.channel, entry.1.endpointAddress)).count
      (consumerId, endpoint.channel, endpoint.address) = 1
  due : ∀ entry ∈ planned, ∃ preference index endpoint,
    Due unicode alert subscriptions preferences entry.1.consumerId endpoint ∧
      preferences entry.1.consumerId = some preference ∧
      preference.channels[index]? = some endpoint ∧ entry.1.channel = endpoint.channel ∧
      entry.1.endpointAddress = endpoint.address ∧
      entry.1.tier = (if preference.strategy = .all then 0 else index) ∧
      entry.1.matchingSubscriptions = matchingOf unicode alert subscriptions entry.1.consumerId
  alert : ∀ entry ∈ planned, entry.1.alertId = alert.id
  keys : (planned.map fun entry => entry.1.idempotencyKey).Nodup
  injective : ∀ consumer otherConsumer : ConsumerId, ∀ alertId otherAlert : AlertId,
    ∀ channel otherChannel : ChannelType, ∀ address otherAddress : String,
      DeliveryIdempotencyKey.new consumer alertId channel address =
        DeliveryIdempotencyKey.new otherConsumer otherAlert otherChannel otherAddress →
      consumer = otherConsumer ∧ alertId = otherAlert ∧ channel = otherChannel ∧
        address = otherAddress

/-- Evaluating, grouping and planning give one delivery for every consumer with a matching subscription
and every endpoint of the consumer's preference, and nothing else. -/
theorem planning_specified (unicode : UnicodeData) (fresh : Supply) (alert : Alert)
    (subscriptions : List Subscription) (preferences : ConsumerId → Option DeliveryPreference)
    (policy : RetryPolicy) :
    PlannedAsDue unicode alert subscriptions preferences (planDeliveriesDomain fresh alert
      (deduplicateByConsumer (evaluateSubscriptions unicode subscriptions alert)) preferences
        policy) := by
  have rows := planDeliveriesDomain_rows unicode alert subscriptions preferences fresh policy
  generalize planned : planDeliveriesDomain fresh alert (deduplicateByConsumer
    (evaluateSubscriptions unicode subscriptions alert)) preferences policy = plan at rows ⊢
  have distinct := dueRows_distinct unicode alert subscriptions preferences
  rw [← rows, List.map_map] at distinct
  have own : ∀ entry ∈ plan, entry.1.alertId = alert.id := by
    intro entry member
    rw [← planned] at member
    obtain ⟨_, _, _, rfl⟩ := planDeliveriesDomain_fresh fresh alert _ preferences policy entry member
    rfl
  have listed : ∀ entry ∈ plan, entry.1.planRow ∈ dueRows unicode alert subscriptions preferences := by
    intro entry member
    rw [← rows]
    exact List.mem_map_of_mem member
  constructor
  · exact rows
  · intro consumerId endpoint due
    obtain ⟨matched, preference, stored, member⟩ := due
    obtain ⟨index, inRange, here⟩ := List.mem_iff_getElem.mp member
    have inRows := (mem_dueRows unicode alert subscriptions preferences
      { consumerId, channel := endpoint.channel, endpointAddress := endpoint.address
        tier := preference.tierAt index
        matchingSubscriptions := matchingOf unicode alert subscriptions consumerId }).mpr
      ⟨preference, index, endpoint, matched, stored, by rw [List.getElem?_eq_getElem inRange, here],
        rfl, rfl, rfl, rfl⟩
    rw [← rows, List.mem_map] at inRows
    obtain ⟨entry, inPlan, same⟩ := inRows
    apply List.count_eq_one_of_mem
    · refine List.Nodup.of_map (fun place : ConsumerId × ChannelType × String =>
        (place.1, place.2.1)) ?_
      rw [List.map_map]
      exact distinct
    · refine List.mem_map.mpr ⟨entry, inPlan, ?_⟩
      have consumer := congrArg PlanRow.consumerId same
      have channel := congrArg PlanRow.channel same
      have address := congrArg PlanRow.endpointAddress same
      exact Prod.ext consumer (Prod.ext channel address)
  · intro entry member
    obtain ⟨preference, index, endpoint, matched, stored, here, channel, address, tier, reasons⟩ :=
      (mem_dueRows unicode alert subscriptions preferences _).mp (listed entry member)
    refine ⟨preference, index, endpoint, ⟨matched, preference, stored, List.mem_of_getElem? here⟩,
      stored, here, channel, address, ?_, reasons⟩
    have placed : entry.1.tier = preference.tierAt index := tier
    rw [placed, DeliveryPreference.tierAt]
    cases preference.strategy <;> rfl
  · exact own
  · rw [List.Nodup, List.pairwise_map] at distinct ⊢
    refine distinct.imp ?_
    intro first second differs same
    obtain ⟨consumer, _, channel, _⟩ := DeliveryIdempotencyKey.new_injective _ _ _ _ _ _ _ _ same
    exact differs (Prod.ext consumer channel)
  · exact DeliveryIdempotencyKey.new_injective

end SafeCameroon
