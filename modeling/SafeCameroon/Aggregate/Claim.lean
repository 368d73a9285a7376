import SafeCameroon.Aggregate.Planning

namespace SafeCameroon

open Table Optimistic DeliveryLife

def storedMatch (matched : MatchedSubscription) : MatchedSubscription :=
  { matched with subscriptionVersion := matched.subscriptionVersion % 2 ^ 32 }

theorem matchedSubscriptionFromJson_toJson (matched : MatchedSubscription) :
    matchedSubscriptionFromJson (matchedSubscriptionToJson matched) = .ok (storedMatch matched) := by
  simp [matchedSubscriptionFromJson, matchedSubscriptionToJson, Json.index, Json.get, Json.uuid,
    Json.natural, Json.asStr, Json.asU64, Uuid.parseStr_display, storedMatch, bind, Except.bind,
    pure, Except.pure]

theorem mapM_matchedSubscriptionFromJson (matched : List MatchedSubscription) :
    (matched.map matchedSubscriptionToJson).mapM matchedSubscriptionFromJson =
      .ok (matched.map storedMatch) := by
  induction matched with
  | nil => rfl
  | cons head tail ih =>
      rw [List.map_cons, List.mapM_cons, ih, matchedSubscriptionFromJson_toJson]
      rfl

theorem deliveryFromRow_readable (row : DeliveryRow) (readable : Readable row) :
    ∃ delivery, deliveryFromRow row = .ok delivery ∧ SameDelivery row delivery ∧
      delivery.life = row.life ∧ delivery.version = row.aggregateVersion := by
  obtain ⟨⟨matched, stored⟩, positive, bounded⟩ := readable
  have whole : row.maxAttempts % 2 ^ 32 = row.maxAttempts := Nat.mod_eq_of_lt (by omega)
  have nonzero : ¬ row.maxAttempts = 0 := by omega
  have policy : RetryPolicy.new (row.maxAttempts % 2 ^ 32) (Nat.mod_lt _ (by decide)) =
      .ok { maxAttempts := row.maxAttempts, positive, bounded := by omega } := by
    simp only [RetryPolicy.new, whole]
    rw [dif_neg nonzero]
  refine ⟨{ id := row.id, alertId := row.alertId, consumerId := row.consumerId
            channel := row.channel, endpointAddress := row.endpointAddress, tier := row.tier
            matchingSubscriptions := matched.map storedMatch
            retryPolicy := { maxAttempts := row.maxAttempts, positive, bounded := by omega }
            status := row.status, attemptCount := row.attemptCount
            version := row.aggregateVersion }, ?_, ⟨rfl, rfl, rfl, rfl, rfl, rfl, rfl⟩, rfl, rfl⟩
  simp only [deliveryFromRow, stored, matchedSubscriptionsToJson, Json.asArray,
    ChannelType.from_as, DeliveryStatus.from_as, expect_some, mapM_matchedSubscriptionFromJson,
    policy, Except.toOption, bind, Except.bind, pure, Except.pure]

theorem deliveryFromRow_ok (row : DeliveryRow) (readable : Readable row) (delivery : Delivery)
    (h : deliveryFromRow row = .ok delivery) :
    SameDelivery row delivery ∧ delivery.life = row.life ∧
      delivery.version = row.aggregateVersion := by
  obtain ⟨other, result, facts⟩ := deliveryFromRow_readable row readable
  obtain rfl : other = delivery := by simpa [result] using h
  exact facts

theorem stale_read (db : Db) (row : DeliveryRow) (member : row ∈ db.deliveries)
    (readable : Readable row) (delivery : Delivery) (h : deliveryFromRow row = .ok delivery) :
    Stale db delivery := by
  obtain ⟨same, life, version⟩ := deliveryFromRow_ok row readable delivery h
  exact ⟨row, member, same, version ▸ Nat.le_refl _, fun _ => life⟩

theorem advanceDelivery_true (now : Timestamp) (delivery : Delivery) (db : Db)
    (distinct : (db.deliveries.map (·.id)).Nodup) (row : DeliveryRow) (member : row ∈ db.deliveries)
    (same : row.id = delivery.id) (version : row.aggregateVersion + 1 = delivery.version) :
    (advanceDelivery now delivery db).1 = true := by
  simp only [advanceDelivery, decide_eq_true_eq]
  have once : (db.deliveries.map (·.id)).count delivery.id = 1 :=
    List.count_eq_one_of_mem distinct (same ▸ List.mem_map_of_mem member)
  have most : db.deliveries.countP (fun row : DeliveryRow =>
      decide (row.id = delivery.id) && decide (row.aggregateVersion + 1 = delivery.version)) ≤
      (db.deliveries.map (·.id)).count delivery.id := by
    rw [List.count, List.countP_map]
    refine List.countP_mono_left fun other _ selected => ?_
    simp only [Bool.and_eq_true, decide_eq_true_eq] at selected
    simp [selected.1]
  have least : 0 < db.deliveries.countP (fun row : DeliveryRow =>
      decide (row.id = delivery.id) && decide (row.aggregateVersion + 1 = delivery.version)) :=
    List.countP_pos_iff.mpr ⟨row, member, by simp [same, version]⟩
  omega

structure Started (before after : Delivery) (event : DeliveryEvent) : Prop where
  moves : Delivery.Moves before after event none
  ready : before.status = .queued ∨ before.status = .retrying
  status : after.status = .sending
  attemptCount : after.attemptCount = before.attemptCount + 1
  eventType : event.eventType = .deliveryStarted

theorem startDeliveryAttempt_started (fresh : Supply) (before after : Delivery) (actor : Actor)
    (requestId : Uuid) (transition : DeliveryTransition)
    (h : startDeliveryAttempt fresh before actor requestId = .ok (after, transition)) :
    Started before after transition.event := by
  simp only [startDeliveryAttempt, bind_ok, pure, Except.pure, Except.ok.injEq, Prod.mk.injEq] at h
  obtain ⟨⟨delivery, event⟩, started, rfl, rfl⟩ := h
  have moves := Delivery.startAttempt_moves fresh before delivery event started
  by_cases ready : before.status = .queued ∨ before.status = .retrying
  · simp only [Delivery.startAttempt, ready, if_true, Except.ok.injEq, Prod.mk.injEq] at started
    obtain ⟨rfl, rfl⟩ := started
    exact ⟨moves, ready, rfl, rfl, rfl⟩
  · simp [Delivery.startAttempt, ready] at started

theorem startDeliveryAttempt_ready (fresh : Supply) (before : Delivery) (actor : Actor)
    (requestId : Uuid) (ready : before.status = .queued ∨ before.status = .retrying) :
    ∃ result, startDeliveryAttempt fresh before actor requestId = .ok result := by
  simp [startDeliveryAttempt, Delivery.startAttempt, ready, bind, Except.bind, pure, Except.pure]

/-- One row started: what was read of it and what committing the start does. -/
structure Claimed (now : Timestamp) (row : DeliveryRow) (delivery : Delivery) (db after : Db) :
    Prop where
  member : row ∈ db.deliveries
  claimed : ∃ before event, deliveryFromRow row = .ok before ∧ Started before delivery event ∧
    Advanced now delivery event none db after

inductive ClaimedAll (now : Timestamp) : List DeliveryRow → List Delivery → Db → Db → Prop where
  | none {db : Db} : ClaimedAll now [] [] db db
  | more {row : DeliveryRow} {rows : List DeliveryRow} {delivery : Delivery}
      {claimed : List Delivery} {db middle after : Db} (first : Claimed now row delivery db middle)
      (rest : ClaimedAll now rows claimed middle after) :
      ClaimedAll now (row :: rows) (delivery :: claimed) db after

theorem Claimed.id (now : Timestamp) (row : DeliveryRow) (delivery : Delivery) (db after : Db)
    (readable : Readable row) (claimed : Claimed now row delivery db after) :
    delivery.id = row.id := by
  obtain ⟨before, event, read, started, _⟩ := claimed.claimed
  rw [started.moves.id]
  exact (deliveryFromRow_ok row readable before read).1.id.symm

namespace PostgresDeliveryRepository

theorem claimRow_effect (now : Timestamp) (fresh : Supply) (row : DeliveryRow) (db after : Db)
    (delivery : Delivery) (member : row ∈ db.deliveries)
    (h : claimRow now fresh row db = .ok (delivery, after)) : Claimed now row delivery db after := by
  simp only [claimRow, bind_ok] at h
  obtain ⟨before, read, ⟨started, transition⟩, start, h⟩ := h
  cases result : startDeliveryAttempt fresh before .automated (fresh 4) with
  | error error => simp [result, Except.toOption, expect] at start
  | ok pair =>
      obtain rfl : pair = (started, transition) := by
        simpa [result, Except.toOption] using start
      have facts := startDeliveryAttempt_started fresh before started .automated (fresh 4)
        transition result
      by_cases advanced : (advanceDelivery now started db).1 = true
      · simp only [advanced, if_true, expect_some, pure, Except.pure, Except.ok.injEq,
          Prod.mk.injEq] at h
        obtain ⟨_, _, _, recorded, rfl, rfl⟩ := h
        exact ⟨member, before, _, read, facts, advanced_of_recorded now started _ db _ advanced
          (recordDeliveryEvent_effect _ _ _ _ _ _ _ _ _ _ recorded)⟩
      · simp [advanced, expect] at h

end PostgresDeliveryRepository

theorem Advanced.keeps {now : Timestamp} {delivery : Delivery} {event : DeliveryEvent}
    {attempt : Option DeliveryAttempt} {db after : Db}
    (advanced : Advanced now delivery event attempt db after)
    (distinct : (db.deliveries.map (·.id)).Nodup) (row : DeliveryRow) (member : row ∈ db.deliveries)
    (differs : row.id ≠ delivery.id) : row ∈ after.deliveries :=
  (advanced.rows distinct row).mpr (Or.inl ⟨member, differs⟩)

namespace PostgresDeliveryRepository

theorem claimRows_effect (now : Timestamp) (fresh : Supply) (index : Nat) (rows : List DeliveryRow)
    (claimed : List Delivery) (db after : Db) (distinct : (db.deliveries.map (·.id)).Nodup)
    (readable : ∀ row ∈ db.deliveries, Readable row) (members : ∀ row ∈ rows, row ∈ db.deliveries)
    (apart : (rows.map (·.id)).Nodup)
    (h : claimRows now fresh index rows db = .ok (claimed, after)) :
    ClaimedAll now rows claimed db after := by
  induction rows generalizing index claimed db with
  | nil =>
      obtain ⟨rfl, rfl⟩ : claimed = [] ∧ after = db := by
        simpa [claimRows, eq_comm] using h
      exact .none
  | cons row rows ih =>
      simp only [claimRows, bind_ok, pure, Except.pure, Except.ok.injEq, Prod.mk.injEq] at h
      obtain ⟨⟨delivery, middle⟩, first, ⟨rest, final⟩, later, rfl, rfl⟩ := h
      have member := members row List.mem_cons_self
      have effect := claimRow_effect now _ row db middle delivery member first
      have same := effect.id now row delivery db middle (readable row member)
      obtain ⟨_, _, _, _, advanced⟩ := effect.claimed
      rw [List.map_cons, List.nodup_cons] at apart
      refine .more effect (ih (index + 1) rest middle ?_ ?_ ?_ apart.2 later)
      · rw [advanced.ids]
        exact distinct
      · intro other inTable
        rcases (advanced.rows distinct other).mp inTable with ⟨old, _⟩ | ⟨before, old, _, _, rfl⟩
        · exact readable other old
        · exact ⟨(readable before old).matched, (readable before old).positive,
            (readable before old).bounded⟩
      · intro other inRows
        refine advanced.keeps distinct other (members other (List.mem_cons_of_mem row inRows)) ?_
        intro equal
        exact apart.1 (same ▸ equal ▸ List.mem_map_of_mem inRows)

theorem claimRow_no_panic (now : Timestamp) (fresh : Supply) (row : DeliveryRow) (db : Db)
    (distinct : (db.deliveries.map (·.id)).Nodup) (member : row ∈ db.deliveries)
    (readable : Readable row) (ready : row.status = .queued ∨ row.status = .retrying)
    (message : String) : claimRow now fresh row db ≠ .error (.panic message) := by
  obtain ⟨before, read, same, life, version⟩ := deliveryFromRow_readable row readable
  have status : before.status = row.status := congrArg State.status life
  obtain ⟨⟨started, transition⟩, result⟩ := startDeliveryAttempt_ready fresh before .automated
    (fresh 4) (by rw [status]; exact ready)
  have facts := startDeliveryAttempt_started fresh before started .automated (fresh 4) transition
    result
  have advanced := advanceDelivery_true now started db distinct row member
    (by rw [facts.moves.id]; exact same.id) (by rw [facts.moves.version, version])
  intro panicked
  simp only [claimRow, read, result, Except.toOption, expect_some, advanced, if_true, bind,
    Except.bind] at panicked
  split at panicked
  · rename_i final failed
    rw [recordDeliveryEvent_error _ _ _ _ _ _ _ _ _ _ failed] at panicked
    simp at panicked
  · simp [pure, Except.pure] at panicked

end PostgresDeliveryRepository

end SafeCameroon
