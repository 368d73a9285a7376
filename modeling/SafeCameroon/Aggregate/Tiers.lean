import SafeCameroon.Aggregate.Follows

namespace SafeCameroon

open Table

theorem DeliveryIdempotencyKey.new_injective (consumer otherConsumer : ConsumerId)
    (alert otherAlert : AlertId) (channel otherChannel : ChannelType) (address otherAddress : String)
    (same : DeliveryIdempotencyKey.new consumer alert channel address =
      DeliveryIdempotencyKey.new otherConsumer otherAlert otherChannel otherAddress) :
    consumer = otherConsumer ∧ alert = otherAlert ∧ channel = otherChannel ∧
      address = otherAddress := by
  have chars := congrArg String.toList same
  simp only [DeliveryIdempotencyKey.new, String.toList_append, List.append_assoc, Uuid.display,
    String.toList_ofList] at chars
  obtain ⟨consumers, afterConsumer⟩ := List.append_inj chars (by simp)
  have afterColon := List.append_cancel_left afterConsumer
  obtain ⟨alerts, afterAlert⟩ := List.append_inj afterColon (by simp)
  have endpoints := List.append_cancel_left afterAlert
  have sameConsumer : consumer.uuid = otherConsumer.uuid := by
    apply Uuid.display_injective
    exact congrArg String.ofList consumers
  have sameAlert : alert.uuid = otherAlert.uuid := by
    apply Uuid.display_injective
    exact congrArg String.ofList alerts
  have sameEndpoint : channel = otherChannel ∧ address.toList = otherAddress.toList := by
    cases channel <;> cases otherChannel <;>
      simp [ChannelType.asDatabaseValue] at endpoints <;> simp [endpoints]
  refine ⟨congrArg ConsumerId.mk sameConsumer, congrArg AlertId.mk sameAlert, sameEndpoint.1, ?_⟩
  exact String.toList_injective sameEndpoint.2

namespace DeliveryPreference

theorem channels_length (preference : DeliveryPreference) : preference.channels.length ≤ 4 := by
  have known : preference.channels.map (·.channel) ⊆
      [ChannelType.whatsApp, .sms, .email, .push] := by
    intro channel _
    cases channel <;> simp
  have length := (List.subperm_of_subset preference.distinct known).length_le
  simpa using length

/-- The tier of the endpoint at the index; the cast to `u8` never wraps. -/
def tierAt (preference : DeliveryPreference) (index : Nat) : Nat :=
  match preference.strategy with
  | .all => 0
  | .primaryFallback | .priorityList => index

theorem tiers_getElem? (preference : DeliveryPreference) (index : Nat) :
    preference.tiers[index]? =
      preference.channels[index]?.map fun endpoint => (preference.tierAt index, endpoint) := by
  cases found : preference.channels[index]? with
  | none => simp [tiers, List.getElem?_zipIdx, found]
  | some endpoint =>
      have inRange : index < preference.channels.length :=
        (List.getElem?_eq_some_iff.mp found).1
      have small : index % 256 = index := by
        have few := preference.channels_length
        omega
      cases strategy : preference.strategy <;>
        simp [tiers, tierAt, List.getElem?_zipIdx, found, strategy, small]

theorem mem_tiers (preference : DeliveryPreference) (tier : Nat) (endpoint : ChannelEndpoint) :
    (tier, endpoint) ∈ preference.tiers ↔
      ∃ index, preference.channels[index]? = some endpoint ∧ tier = preference.tierAt index := by
  rw [List.mem_iff_getElem?]
  constructor
  · intro ⟨index, found⟩
    rw [tiers_getElem?, Option.map_eq_some_iff] at found
    obtain ⟨other, stored, same⟩ := found
    rw [Prod.mk.injEq] at same
    exact ⟨index, same.2 ▸ stored, same.1.symm⟩
  · intro ⟨index, stored, same⟩
    exact ⟨index, by rw [tiers_getElem?, stored, same]; rfl⟩

theorem tiers_channel (preference : DeliveryPreference) (tier otherTier : Nat)
    (endpoint other : ChannelEndpoint) (member : (tier, endpoint) ∈ preference.tiers)
    (otherMember : (otherTier, other) ∈ preference.tiers)
    (same : endpoint.channel = other.channel) : tier = otherTier := by
  obtain ⟨index, stored, rfl⟩ := (mem_tiers preference tier endpoint).mp member
  obtain ⟨otherIndex, otherStored, rfl⟩ := (mem_tiers preference otherTier other).mp otherMember
  have left : (preference.channels.map (·.channel))[index]? = some other.channel := by
    simp [stored, same]
  have right : (preference.channels.map (·.channel))[otherIndex]? = some other.channel := by
    simp [otherStored]
  have inRange : index < (preference.channels.map (·.channel)).length :=
    (List.getElem?_eq_some_iff.mp left).1
  have indices : index = otherIndex :=
    (List.getElem?_inj inRange preference.distinct).mp (left.trans right.symm)
  rw [indices]

theorem tiers_earlier (preference : DeliveryPreference) (first rest : List (Nat × ChannelEndpoint))
    (entry lower : Nat × ChannelEndpoint) (split : preference.tiers = first ++ entry :: rest)
    (member : lower ∈ preference.tiers) (below : lower.1 < entry.1) : lower ∈ first := by
  have here : preference.tiers[first.length]? = some entry := by
    rw [split]
    simp
  obtain ⟨index, stored, tier⟩ := (mem_tiers preference lower.1 lower.2).mp member
  have entryTier : entry.1 = preference.tierAt first.length := by
    rw [tiers_getElem?, Option.map_eq_some_iff] at here
    obtain ⟨endpoint, _, same⟩ := here
    rw [← same]
  have before : index < first.length := by
    rw [tier, entryTier] at below
    cases strategy : preference.strategy <;> simp only [tierAt, strategy] at below
    · omega
    · exact below
    · exact below
  have found : preference.tiers[index]? = some lower := by
    rw [tiers_getElem?, stored]
    simp only [Option.map_some, ← tier]
  rw [split, List.getElem?_append_left before] at found
  exact List.mem_of_getElem? found

end DeliveryPreference

/-- Where a delivery stands in the fan-out of its alert. -/
structure Place where
  alertId : AlertId
  consumerId : ConsumerId
  channel : ChannelType
  endpointAddress : String
  tier : Nat

namespace Place

def key (place : Place) : String :=
  DeliveryIdempotencyKey.new place.consumerId place.alertId place.channel place.endpointAddress

def Offered (preferenceOf : AlertId → ConsumerId → Option DeliveryPreference) (place : Place) : Prop :=
  ∃ preference endpoint, preferenceOf place.alertId place.consumerId = some preference ∧
    (place.tier, endpoint) ∈ preference.tiers ∧ endpoint.channel = place.channel ∧
      endpoint.address = place.endpointAddress

structure Below (place lower : Place) : Prop where
  alertId : lower.alertId = place.alertId
  consumerId : lower.consumerId = place.consumerId
  tier : lower.tier < place.tier

theorem eq_of_key (preferenceOf : AlertId → ConsumerId → Option DeliveryPreference)
    (first second : Place) (offered : first.Offered preferenceOf)
    (otherOffered : second.Offered preferenceOf) (same : first.key = second.key) :
    first = second := by
  obtain ⟨consumer, alert, channel, address⟩ :=
    DeliveryIdempotencyKey.new_injective _ _ _ _ _ _ _ _ same
  obtain ⟨preference, endpoint, known, member, channels, _⟩ := offered
  obtain ⟨other, otherEndpoint, otherKnown, otherMember, otherChannels, _⟩ := otherOffered
  rw [consumer, alert, otherKnown, Option.some.injEq] at known
  subst known
  have tier : first.tier = second.tier := by
    apply other.tiers_channel first.tier second.tier endpoint otherEndpoint member otherMember
    rw [channels, otherChannels, channel]
  cases first
  cases second
  simp_all

end Place

def DeliveryRow.place (row : DeliveryRow) : Place :=
  { alertId := row.alertId, consumerId := row.consumerId, channel := row.channel
    endpointAddress := row.endpointAddress, tier := row.tier }

def PlannedDelivery.place (item : PlannedDelivery) : Place :=
  { alertId := item.delivery.alertId, consumerId := item.delivery.consumerId
    channel := item.delivery.channel, endpointAddress := item.delivery.endpointAddress
    tier := item.delivery.tier }

@[simp] theorem plannedRow_place (now : Timestamp) (item : PlannedDelivery) :
    (plannedRow now item).place = item.place := rfl

theorem Follows.place {row after : DeliveryRow} (follows : Follows row after) :
    after.place = row.place := by
  rw [follows.fixed]
  rfl

theorem Follows.hash {row after : DeliveryRow} (follows : Follows row after) :
    after.idempotencyKeyHash = row.idempotencyKeyHash := by
  rw [follows.fixed]

theorem forall₂_mem_left {α β : Type} {relation : α → β → Prop} {lefts : List α} {rights : List β}
    (related : List.Forall₂ relation lefts rights) (left : α) (member : left ∈ lefts) :
    ∃ right ∈ rights, relation left right := by
  induction related with
  | nil => simp at member
  | cons head tail ih =>
      rcases List.mem_cons.mp member with rfl | inTail
      · exact ⟨_, List.mem_cons_self, head⟩
      · obtain ⟨right, inRights, holds⟩ := ih inTail
        exact ⟨right, List.mem_cons_of_mem _ inRights, holds⟩

def PlanTarget.place (alertId : AlertId) (target : PlanTarget) : Place :=
  { alertId, consumerId := target.consumerMatch.consumerId, channel := target.endpoint.channel
    endpointAddress := target.endpoint.address, tier := target.tier }

theorem planTargets_earlier (consumerMatches : List ConsumerMatch)
    (preferences : ConsumerId → Option DeliveryPreference) (earlier later : List PlanTarget)
    (target : PlanTarget)
    (split : planTargets consumerMatches preferences = earlier ++ target :: later) :
    ∃ preference, preferences target.consumerMatch.consumerId = some preference ∧
      (target.tier, target.endpoint) ∈ preference.tiers ∧
      ∀ lower ∈ preference.tiers, lower.1 < target.tier →
        ⟨target.consumerMatch, lower.1, lower.2⟩ ∈ earlier := by
  induction consumerMatches generalizing earlier with
  | nil => simp [planTargets] at split
  | cons consumerMatch rest ih =>
      rw [planTargets, List.flatMap_cons] at split
      change _ ++ planTargets rest preferences = _ at split
      cases known : preferences consumerMatch.consumerId with
      | none =>
          simp only [known, List.nil_append] at split
          exact ih earlier split
      | some preference =>
          simp only [known] at split
          rcases List.append_eq_append_iff.mp split with
            ⟨between, before, after⟩ | ⟨between, block, after⟩
          · obtain ⟨found, stored, member, first⟩ := ih between after
            refine ⟨found, stored, member, fun lower inTiers below => ?_⟩
            rw [before]
            exact List.mem_append_right _ (first lower inTiers below)
          · cases between with
            | nil =>
                obtain ⟨found, stored, member, first⟩ := ih [] after.symm
                refine ⟨found, stored, member, fun lower inTiers below => ?_⟩
                exact absurd (first lower inTiers below) List.not_mem_nil
            | cons head tail =>
                obtain ⟨rfl, _⟩ := List.cons.inj after
                obtain ⟨front, back, tiers, fronts, backs⟩ := List.map_eq_append_iff.mp block
                obtain ⟨entry, others, rfl, here, _⟩ := List.map_eq_cons_iff.mp backs
                subst here
                refine ⟨preference, known, ?_, fun lower inTiers below => ?_⟩
                · rw [tiers]
                  exact List.mem_append_right _ List.mem_cons_self
                · have inFront := preference.tiers_earlier front others entry lower tiers inTiers below
                  rw [← fronts]
                  exact List.mem_map.mpr ⟨lower, inFront, rfl⟩

structure ItemOf (sha256 : String → Bytes) (alertId : AlertId) (target : PlanTarget)
    (item : PlannedDelivery) : Prop where
  place : item.place = target.place alertId
  hash : item.idempotencyKeyHash = sha256 item.place.key

theorem planDeliveries_items (sha256 : String → Bytes) (fresh : Supply) (alert : Alert)
    (matched : List ConsumerMatch) (preferences : ConsumerId → Option DeliveryPreference)
    (policy : RetryPolicy) (actor : Actor) (requestId : Uuid) :
    List.Forall₂ (ItemOf sha256 alert.id) (planTargets matched preferences)
      (planDeliveries sha256 fresh alert matched preferences policy actor requestId) := by
  simp only [planDeliveries, planDeliveriesDomain]
  generalize planTargets matched preferences = targets
  suffices general : ∀ first second, List.Forall₂ (ItemOf sha256 alert.id) targets
      (((targets.zipIdx first).map _).zipIdx second |>.map _) from general 0 0
  induction targets with
  | nil => exact fun _ _ => .nil
  | cons target rest ih =>
      intro first second
      exact .cons ⟨rfl, rfl⟩ (ih (first + 1) (second + 1))

theorem planDeliveries_earlier (sha256 : String → Bytes) (fresh : Supply) (alert : Alert)
    (matched : List ConsumerMatch) (preferences : ConsumerId → Option DeliveryPreference)
    (policy : RetryPolicy) (actor : Actor) (requestId : Uuid)
    (earlier later : List PlannedDelivery) (item : PlannedDelivery)
    (split : planDeliveries sha256 fresh alert matched preferences policy actor requestId =
      earlier ++ item :: later)
    (preferenceOf : AlertId → ConsumerId → Option DeliveryPreference)
    (agrees : ∀ consumerId preference, preferences consumerId = some preference →
      preferenceOf alert.id consumerId = some preference) :
    item.idempotencyKeyHash = sha256 item.place.key ∧ item.place.Offered preferenceOf ∧
      ∀ lower : Place, lower.Offered preferenceOf → item.place.Below lower →
        ∃ before ∈ earlier, before.place = lower := by
  have items := planDeliveries_items sha256 fresh alert matched preferences policy actor requestId
  rw [split] at items
  have front := List.forall₂_take_append _ _ _ items
  have back := List.forall₂_drop_append _ _ _ items
  obtain ⟨target, rest, made, _, dropped⟩ := List.forall₂_cons_right_iff.mp back
  have targets : planTargets matched preferences =
      (planTargets matched preferences).take earlier.length ++ target :: rest := by
    rw [← dropped, List.take_append_drop]
  obtain ⟨preference, known, member, first⟩ :=
    planTargets_earlier matched preferences _ rest target targets
  have place := made.place
  have preferred := agrees _ preference known
  refine ⟨made.hash, ?_, ?_⟩
  · rw [place]
    exact ⟨preference, target.endpoint, preferred, member, rfl, rfl⟩
  · intro lower offered below
    obtain ⟨other, endpoint, stored, inTiers, channel, address⟩ := offered
    have consumer : lower.consumerId = target.consumerMatch.consumerId := by
      rw [below.consumerId, place]
      rfl
    have alertId : lower.alertId = alert.id := by
      rw [below.alertId, place]
      rfl
    have tier : lower.tier < target.tier := by
      have smaller := below.tier
      rw [place] at smaller
      exact smaller
    rw [alertId, consumer, preferred, Option.some.injEq] at stored
    subst stored
    obtain ⟨before, inEarlier, earlierMade⟩ :=
      forall₂_mem_left front _ (first (lower.tier, endpoint) inTiers tier)
    refine ⟨before, inEarlier, ?_⟩
    rw [earlierMade.place]
    simp only [PlanTarget.place, channel, address, ← consumer, ← alertId]

end SafeCameroon
