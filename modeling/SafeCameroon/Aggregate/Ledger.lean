import SafeCameroon.Aggregate.Effects

namespace SafeCameroon

open Table Optimistic DeliveryLife

namespace DeliveryRow

def life (row : DeliveryRow) : State := { status := row.status, attemptCount := row.attemptCount }

def record (row : DeliveryRow) (log : List Entry) : Record State Entry :=
  { version := row.aggregateVersion, state := row.life, log }

end DeliveryRow

@[simp] theorem advancedRow_id (now : Timestamp) (delivery : Delivery) (row : DeliveryRow) :
    (advancedRow now delivery row).id = row.id := rfl

@[simp] theorem advancedRow_maxAttempts (now : Timestamp) (delivery : Delivery)
    (row : DeliveryRow) : (advancedRow now delivery row).maxAttempts = row.maxAttempts := rfl

@[simp] theorem advancedRow_version (now : Timestamp) (delivery : Delivery) (row : DeliveryRow) :
    (advancedRow now delivery row).aggregateVersion = delivery.version := rfl

@[simp] theorem advancedRow_life (now : Timestamp) (delivery : Delivery) (row : DeliveryRow) :
    (advancedRow now delivery row).life = delivery.life := rfl

def eventsOf (id : DeliveryId) (db : Db) : List DeliveryEventRow :=
  db.deliveryEvents.filter fun row => row.deliveryId = id

def attemptsOf (id : DeliveryId) (db : Db) : List DeliveryAttemptRow :=
  db.deliveryAttempts.filter fun row => row.deliveryId = id

def eventColumns (log : List Entry) : List (Nat × DeliveryEventType) :=
  (1, .deliveryRequested) :: log.zipIdx.map fun (entry, index) => (index + 2, entry.eventType)

@[simp] theorem eventColumns_append (log : List Entry) (entry : Entry) :
    eventColumns (log ++ [entry]) = eventColumns log ++ [(log.length + 2, entry.eventType)] := by
  simp [eventColumns, List.zipIdx_append]

theorem eventColumns_versions (log : List Entry) :
    (eventColumns log).map Prod.fst = List.range' 1 (log.length + 1) := by
  induction log using List.reverseRecOn with
  | nil => rfl
  | append_singleton log entry ih =>
      rw [eventColumns_append, List.map_append, ih, List.length_append, List.length_singleton]
      have last : 1 + (log.length + 1) = log.length + 2 := by omega
      rw [range'_snoc 1 (log.length + 1), last]
      rfl

theorem eventColumns_types (log : List Entry) :
    (eventColumns log).map Prod.snd = .deliveryRequested :: log.map (·.eventType) := by
  induction log using List.reverseRecOn with
  | nil => rfl
  | append_singleton log entry ih =>
      rw [eventColumns_append, List.map_append, ih, List.map_append]
      rfl

/-- The tables tell one story of a delivery: its row, its events and its attempts come from one log
of transitions, as many as were committed. -/
structure Tells (db : Db) (transitions : Nat) (row : DeliveryRow) (log : List Entry) : Prop where
  counted : transitions = log.length
  sound : Sound (Step row.maxAttempts) requested (row.record log)
  events : (eventsOf row.id db).map (fun event => (event.aggregateVersion, event.eventType)) =
    eventColumns log
  attempts : attemptsOf row.id db = DeliveryLife.attemptsOf log

structure Readable (row : DeliveryRow) : Prop where
  matched : ∃ matched, row.matchingSubscriptions = matchedSubscriptionsToJson matched
  positive : 0 < row.maxAttempts
  bounded : row.maxAttempts < 2 ^ 31

/-- The delivery tables agree with each other and with the count of committed transitions. -/
structure Ledger (db : Db) (transitions : DeliveryId → Nat) : Prop where
  distinct : (db.deliveries.map (·.id)).Nodup
  events_known : ∀ event ∈ db.deliveryEvents, event.deliveryId ∈ db.deliveries.map (·.id)
  attempts_known : ∀ attempt ∈ db.deliveryAttempts, attempt.deliveryId ∈ db.deliveries.map (·.id)
  unplanned : ∀ id, id ∉ db.deliveries.map (·.id) → transitions id = 0
  readable : ∀ row ∈ db.deliveries, Readable row
  tells : ∀ row ∈ db.deliveries, ∃ log, Tells db (transitions row.id) row log

structure SameDelivery (row : DeliveryRow) (delivery : Delivery) : Prop where
  id : row.id = delivery.id
  alertId : row.alertId = delivery.alertId
  consumerId : row.consumerId = delivery.consumerId
  channel : row.channel = delivery.channel
  endpointAddress : row.endpointAddress = delivery.endpointAddress
  tier : row.tier = delivery.tier
  maxAttempts : row.maxAttempts = delivery.retryPolicy.maxAttempts

/-- The delivery was read earlier: the stored one has moved on since, or is still the same. -/
def Stale (db : Db) (delivery : Delivery) : Prop :=
  ∃ row ∈ db.deliveries, SameDelivery row delivery ∧
    Behind delivery.version delivery.life (row.record [])

theorem Ledger.consistent {db : Db} {transitions : DeliveryId → Nat} (ledger : Ledger db transitions)
    (row : DeliveryRow) (member : row ∈ db.deliveries) :
    ∃ log, Tells db (transitions row.id) row log ∧ Consistent row.maxAttempts log row.life := by
  obtain ⟨log, told⟩ := ledger.tells row member
  exact ⟨log, told, consistent_of_replays row.maxAttempts (ledger.readable row member).positive log
    row.life told.sound.replays⟩

theorem Ledger.sent {db : Db} {transitions : DeliveryId → Nat} (ledger : Ledger db transitions)
    (row : DeliveryRow) (member : row ∈ db.deliveries) (attempt : DeliveryAttemptRow)
    (recorded : attempt ∈ db.deliveryAttempts) (subject : attempt.deliveryId = row.id)
    (sent : attempt.outcome = .sent) : row.status = .sent ∨ row.status = .delivered := by
  obtain ⟨log, told, consistent⟩ := ledger.consistent row member
  refine consistent.sent ⟨attempt, ?_, sent⟩
  rw [← told.attempts]
  exact List.mem_filter.mpr ⟨recorded, by simp [subject]⟩

theorem Ledger.unnumbered {db : Db} {transitions : DeliveryId → Nat} (ledger : Ledger db transitions)
    (row : DeliveryRow) (member : row ∈ db.deliveries) (version : Nat)
    (ahead : row.aggregateVersion < version) :
    (row.id, version) ∉ db.deliveryEvents.map fun event =>
      (event.deliveryId, event.aggregateVersion) := by
  intro taken
  obtain ⟨event, recorded, same⟩ := List.mem_map.mp taken
  obtain ⟨subject, number⟩ := Prod.mk.inj same
  obtain ⟨log, told⟩ := ledger.tells row member
  have reached : row.aggregateVersion = log.length + 1 := told.sound.version_eq
  have inEvents : event ∈ eventsOf row.id db := List.mem_filter.mpr ⟨recorded, by simp [subject]⟩
  have listed : event.aggregateVersion ∈ (eventColumns log).map Prod.fst := by
    rw [← told.events, List.map_map]
    exact List.mem_map_of_mem inEvents
  rw [eventColumns_versions, List.mem_range'_1] at listed
  omega

namespace Advanced

variable {now : Timestamp} {delivery : Delivery} {event : DeliveryEvent}
  {attempt : Option DeliveryAttempt} {db after : Db}

theorem rows (advanced : Advanced now delivery event attempt db after)
    (distinct : (db.deliveries.map (·.id)).Nodup) (row : DeliveryRow) :
    row ∈ after.deliveries ↔ (row ∈ db.deliveries ∧ row.id ≠ delivery.id) ∨
      ∃ before ∈ db.deliveries, before.id = delivery.id ∧
        before.aggregateVersion + 1 = delivery.version ∧ row = advancedRow now delivery before := by
  obtain ⟨current, member, same, version⟩ := advanced.matched
  rw [advanced.deliveries]
  simp only [advanceDelivery, mem_updateWhere, Bool.and_eq_true, decide_eq_true_eq]
  constructor
  · rintro ⟨before, inTable, ⟨selected, rfl⟩ | ⟨skipped, rfl⟩⟩
    · exact Or.inr ⟨before, inTable, selected.1, selected.2, rfl⟩
    · refine Or.inl ⟨inTable, fun equal => ?_⟩
      have identical := eq_of_key (·.id) _ distinct row current inTable member
        (equal.trans same.symm)
      subst identical
      simp [same, version] at skipped
  · rintro (⟨inTable, differs⟩ | ⟨before, inTable, equal, older, rfl⟩)
    · exact ⟨row, inTable, Or.inr ⟨by simp [differs], rfl⟩⟩
    · exact ⟨before, inTable, Or.inl ⟨⟨equal, older⟩, rfl⟩⟩

theorem ids (advanced : Advanced now delivery event attempt db after) :
    after.deliveries.map (·.id) = db.deliveries.map (·.id) := by
  rw [advanced.deliveries]
  exact map_key_updateWhere _ _ _ _ fun _ => rfl

theorem eventsOf_other (advanced : Advanced now delivery event attempt db after) (id : DeliveryId)
    (differs : id ≠ delivery.id) : eventsOf id after = eventsOf id db := by
  obtain ⟨row, subject, _, _, appended⟩ := advanced.events
  simp [eventsOf, appended, List.filter_append, subject, Ne.symm differs]

theorem attemptsOf_other (advanced : Advanced now delivery event attempt db after)
    (owner : ∀ recorded ∈ attempt, recorded.deliveryId = delivery.id) (id : DeliveryId)
    (differs : id ≠ delivery.id) : attemptsOf id after = attemptsOf id db := by
  rw [attemptsOf, advanced.attempts, List.filter_append]
  cases attempt with
  | none => simp [attemptsOf]
  | some recorded =>
      have subject := owner recorded rfl
      simp [attemptsOf, subject, Ne.symm differs]

end Advanced

theorem Stale.current (db : Db) (delivery : Delivery) (row : DeliveryRow)
    (distinct : (db.deliveries.map (·.id)).Nodup) (stale : Stale db delivery)
    (member : row ∈ db.deliveries) (same : row.id = delivery.id) :
    SameDelivery row delivery ∧ Behind delivery.version delivery.life (row.record []) := by
  obtain ⟨other, inTable, fixed, behind⟩ := stale
  obtain rfl := eq_of_key (·.id) _ distinct other row inTable member (fixed.id.trans same.symm)
  exact ⟨fixed, behind⟩

section Transition

variable {now : Timestamp} {before delivery : Delivery} {event : DeliveryEvent}
  {attempt : Option DeliveryAttempt} {db after : Db} {transitions : DeliveryId → Nat}

theorem Delivery.Moves.id (moves : Delivery.Moves before delivery event attempt) :
    delivery.id = before.id := by rw [moves.fixed]

theorem Delivery.Moves.version (moves : Delivery.Moves before delivery event attempt) :
    delivery.version = before.version + 1 := by rw [moves.fixed]

theorem Delivery.Moves.same (moves : Delivery.Moves before delivery event attempt) (row : DeliveryRow)
    (same : SameDelivery row before) : SameDelivery row delivery := by
  rw [moves.fixed]
  exact ⟨same.id, same.alertId, same.consumerId, same.channel, same.endpointAddress, same.tier,
    same.maxAttempts⟩

theorem ledger_advance (ledger : Ledger db transitions) (stale : Stale db before)
    (moves : Delivery.Moves before delivery event attempt)
    (advanced : Advanced now delivery event attempt db after) :
    Ledger after fun id => if id = delivery.id then transitions id + 1 else transitions id := by
  have rows := advanced.rows ledger.distinct
  have owner : ∀ recorded ∈ attempt, recorded.deliveryId = delivery.id := by
    intro recorded member
    rw [moves.owner recorded member, moves.id]
  refine ⟨?_, ?_, ?_, ?_, ?_, ?_⟩
  · rw [advanced.ids]
    exact ledger.distinct
  · obtain ⟨added, subject, _, _, appended⟩ := advanced.events
    obtain ⟨current, inTable, same, _⟩ := advanced.matched
    intro event member
    rw [advanced.ids]
    rw [appended, List.mem_append, List.mem_singleton] at member
    rcases member with old | rfl
    · exact ledger.events_known event old
    · rw [subject, ← same]
      exact List.mem_map_of_mem inTable
  · obtain ⟨current, inTable, same, _⟩ := advanced.matched
    intro recorded member
    rw [advanced.ids]
    rw [advanced.attempts, List.mem_append] at member
    rcases member with old | new
    · exact ledger.attempts_known recorded old
    · cases attempt with
      | none => simp at new
      | some value =>
          obtain rfl : recorded = deliveryAttemptRow value := by simpa using new
          rw [deliveryAttemptRow_deliveryId, owner value rfl, ← same]
          exact List.mem_map_of_mem inTable
  · intro id absent
    rw [advanced.ids] at absent
    obtain ⟨current, inTable, same, _⟩ := advanced.matched
    have differs : id ≠ delivery.id := by
      rintro rfl
      exact absent (same ▸ List.mem_map_of_mem inTable)
    simp only [differs, if_false]
    exact ledger.unplanned id absent
  · intro row member
    rcases (rows row).mp member with ⟨old, _⟩ | ⟨current, inTable, _, _, rfl⟩
    · exact ledger.readable row old
    · have readable := ledger.readable current inTable
      exact ⟨readable.matched, readable.positive, readable.bounded⟩
  · intro row member
    rcases (rows row).mp member with ⟨old, differs⟩ | ⟨current, inTable, same, older, rfl⟩
    · obtain ⟨log, told⟩ := ledger.tells row old
      refine ⟨log, ?_, told.sound, ?_, ?_⟩
      · simpa only [differs, if_false] using told.counted
      · rw [advanced.eventsOf_other row.id differs]
        exact told.events
      · rw [advanced.attemptsOf_other owner row.id differs]
        exact told.attempts
    · obtain ⟨log, told⟩ := ledger.tells current inTable
      have atCurrent := stale.current db before current ledger.distinct inTable
        (same.trans moves.id)
      have written := sound_write (Step current.maxAttempts) requested (current.record log)
        before.version before.life delivery.life ⟨event.eventType, attempt.map deliveryAttemptRow⟩
        told.sound atCurrent.2 (by rw [atCurrent.1.maxAttempts]; exact moves.step)
      have version : current.aggregateVersion + 1 = before.version + 1 := by
        rw [older, moves.version]
      refine ⟨log ++ [⟨event.eventType, attempt.map deliveryAttemptRow⟩], ?_, ?_, ?_, ?_⟩
      · simp only [advancedRow_id, same, if_true, List.length_append, List.length_singleton]
        rw [← same, told.counted]
      · simp only [Record.write, DeliveryRow.record, version, if_true] at written
        rw [← moves.version] at written
        exact written
      · obtain ⟨added, subject, type, number, appended⟩ := advanced.events
        have length : current.aggregateVersion = log.length + 1 := told.sound.version_eq
        have last : event.aggregateVersion = log.length + 2 := by
          have numbered := moves.numbered
          omega
        rw [advancedRow_id, eventsOf, appended, List.filter_append, List.map_append,
          eventColumns_append, ← told.events, eventsOf]
        simp [subject, same, number, type, last]
      · rw [advancedRow_id, attemptsOf, advanced.attempts, List.filter_append,
          DeliveryLife.attemptsOf_append, ← told.attempts, attemptsOf]
        cases attempt with
        | none => simp
        | some value => simp [owner value rfl, same]

theorem stale_advance (distinct : (db.deliveries.map (·.id)).Nodup) (reader : Delivery)
    (stale : Stale db reader) (advanced : Advanced now delivery event attempt db after) :
    Stale after reader := by
  obtain ⟨row, member, same, behind⟩ := stale
  by_cases differs : row.id = delivery.id
  · obtain ⟨current, inTable, equal, older⟩ := advanced.matched
    obtain rfl := eq_of_key (·.id) _ distinct row current member inTable
      (differs.trans equal.symm)
    refine ⟨advancedRow now delivery row,
      (advanced.rows distinct _).mpr (Or.inr ⟨row, member, equal, older, rfl⟩),
      ⟨same.id, same.alertId, same.consumerId, same.channel, same.endpointAddress, same.tier,
        same.maxAttempts⟩, ?_⟩
    have written := behind_write (row.record []) reader.version delivery.version reader.life
      delivery.life ⟨event.eventType, none⟩ behind
    simp only [Record.write, DeliveryRow.record, older, if_true] at written
    exact ⟨written.1, written.2⟩
  · exact ⟨row, (advanced.rows distinct row).mpr (Or.inl ⟨member, differs⟩), same, behind⟩

end Transition

end SafeCameroon
