import SafeCameroon.Aggregate.Claim

namespace SafeCameroon

open Table Optimistic DeliveryLife

structure Holds (row : DeliveryRow) (delivery : Delivery) : Prop where
  same : SameDelivery row delivery
  version : row.aggregateVersion = delivery.version
  life : row.life = delivery.life

structure StartOf (row : DeliveryRow) (delivery : Delivery) : Prop where
  same : SameDelivery row delivery
  ready : row.status = .queued ∨ row.status = .retrying
  status : delivery.status = .sending
  attemptCount : delivery.attemptCount = row.attemptCount + 1
  version : delivery.version = row.aggregateVersion + 1

theorem Claimed.startOf {now : Timestamp} {row : DeliveryRow} {delivery : Delivery} {db after : Db}
    (readable : Readable row) (claimed : Claimed now row delivery db after) :
    StartOf row delivery := by
  obtain ⟨before, event, read, started, _⟩ := claimed.claimed
  obtain ⟨same, life, version⟩ := deliveryFromRow_ok row readable before read
  have status : before.status = row.status := congrArg State.status life
  have attemptCount : before.attemptCount = row.attemptCount := congrArg State.attemptCount life
  refine ⟨started.moves.same row same, status ▸ started.ready, started.status, ?_, ?_⟩
  · rw [started.attemptCount, attemptCount]
  · rw [started.moves.version, version]

theorem advancedRow_holds (now : Timestamp) (row : DeliveryRow) (delivery : Delivery)
    (same : SameDelivery row delivery) : Holds (advancedRow now delivery row) delivery :=
  ⟨⟨same.id, same.alertId, same.consumerId, same.channel, same.endpointAddress, same.tier,
    same.maxAttempts⟩, rfl, rfl⟩

theorem Holds.stale {db : Db} {row : DeliveryRow} {delivery : Delivery} (member : row ∈ db.deliveries)
    (holds : Holds row delivery) : Stale db delivery :=
  ⟨row, member, holds.same, holds.version ▸ Nat.le_refl _, fun _ => holds.life.symm⟩

structure Batch (now : Timestamp) (rows : List DeliveryRow) (claimed : List Delivery)
    (db after : Db) : Prop where
  members : ∀ row ∈ rows, row ∈ db.deliveries
  starts : List.Forall₂ StartOf rows claimed
  tables : ∀ row, row ∈ after.deliveries ↔ (row ∈ db.deliveries ∧ row.id ∉ rows.map (·.id)) ∨
    ∃ pair ∈ rows.zip claimed, row = advancedRow now pair.2 pair.1
  attempts : after.deliveryAttempts = db.deliveryAttempts
  events : ∃ added, after.deliveryEvents = db.deliveryEvents ++ added ∧
    ∀ event ∈ added, event.eventType = .deliveryStarted
  outbox : ∃ added, after.outboxEvents = db.outboxEvents ++ added ∧
    (∀ row ∈ added, row.eventType = DeliveryEventType.deliveryStarted.asDatabaseValue) ∧
    ∀ row ∈ added, row.id ∉ db.outboxEvents.map (·.id)
  elsewhere : Db.SameElsewhere db after

theorem Claimed.readable {now : Timestamp} {row : DeliveryRow} {delivery : Delivery}
    {db after : Db} (distinct : (db.deliveries.map (·.id)).Nodup)
    (readable : ∀ row ∈ db.deliveries, Readable row)
    (claimed : Claimed now row delivery db after) : ∀ row ∈ after.deliveries, Readable row := by
  obtain ⟨before, event, _, _, advanced⟩ := claimed.claimed
  intro other member
  rcases (advanced.rows distinct other).mp member with ⟨old, _⟩ | ⟨earlier, old, _, _, rfl⟩
  · exact readable other old
  · exact ⟨(readable earlier old).matched, (readable earlier old).positive,
      (readable earlier old).bounded⟩

theorem Claimed.rows {now : Timestamp} {row : DeliveryRow} {delivery : Delivery}
    {db after : Db} (distinct : (db.deliveries.map (·.id)).Nodup)
    (readable : ∀ row ∈ db.deliveries, Readable row)
    (claimed : Claimed now row delivery db after) (other : DeliveryRow) :
    other ∈ after.deliveries ↔ (other ∈ db.deliveries ∧ other.id ≠ row.id) ∨
      other = advancedRow now delivery row := by
  have same := claimed.id now row delivery db after (readable row claimed.member)
  have starts := claimed.startOf (readable row claimed.member)
  obtain ⟨before, event, _, _, advanced⟩ := claimed.claimed
  rw [advanced.rows distinct other, same]
  constructor
  · rintro (old | ⟨earlier, inTable, equal, _, rfl⟩)
    · exact Or.inl old
    · obtain rfl := eq_of_key (·.id) _ distinct earlier row inTable claimed.member equal
      exact Or.inr rfl
  · rintro (old | rfl)
    · exact Or.inl old
    · exact Or.inr ⟨row, claimed.member, rfl, starts.version.symm, rfl⟩

theorem ClaimedAll.batch {now : Timestamp} {rows : List DeliveryRow} {claimed : List Delivery}
    {db after : Db} (claimedAll : ClaimedAll now rows claimed db after)
    (distinct : (db.deliveries.map (·.id)).Nodup) (readable : ∀ row ∈ db.deliveries, Readable row)
    (apart : (rows.map (·.id)).Nodup) : Batch now rows claimed db after := by
  induction claimedAll with
  | none =>
      refine ⟨by simp, .nil, by simp, rfl, ⟨[], by simp, by simp⟩, ⟨[], by simp, by simp, by simp⟩,
        rfl⟩
  | @more row rows delivery claimed db middle after first rest ih =>
      have firstRows := first.rows distinct readable
      have starts := first.startOf (readable row first.member)
      have readableMiddle := first.readable distinct readable
      have member := first.member
      obtain ⟨before, event, _, started, advanced⟩ := first.claimed
      rw [List.map_cons, List.nodup_cons] at apart
      have later := ih (by rw [advanced.ids]; exact distinct) readableMiddle apart.2
      have differs : ∀ other ∈ rows, other.id ≠ row.id := fun other inRows equal =>
        apart.1 (equal ▸ List.mem_map_of_mem inRows)
      obtain ⟨laterEvents, eventsAppended, eventTypes⟩ := later.events
      obtain ⟨laterOutbox, outboxAppended, outboxTypes, outboxUnused⟩ := later.outbox
      obtain ⟨eventRow, _, eventType, _, eventAppended⟩ := advanced.events
      obtain ⟨outboxRow, _, _, outboxType, _, _, unused, rowAppended⟩ := advanced.outbox
      refine ⟨?_, .cons starts later.starts, ?_, ?_, ?_, ?_, ?_⟩
      · intro other inRows
        rcases List.mem_cons.mp inRows with rfl | inRest
        · exact member
        · rcases (firstRows other).mp (later.members other inRest) with old | changed
          · exact old.1
          · exact absurd (congrArg DeliveryRow.id changed) (differs other inRest)
      · intro other
        rw [later.tables other, List.zip_cons_cons]
        constructor
        · rintro (⟨inMiddle, untouched⟩ | ⟨pair, inRest, rfl⟩)
          · rcases (firstRows other).mp inMiddle with ⟨old, apartFrom⟩ | rfl
            · exact Or.inl ⟨old, by simpa [apartFrom] using untouched⟩
            · exact Or.inr ⟨(row, delivery), List.mem_cons_self, rfl⟩
          · exact Or.inr ⟨pair, List.mem_cons_of_mem _ inRest, rfl⟩
        · rintro (⟨old, untouched⟩ | ⟨pair, inRows, rfl⟩)
          · rw [List.map_cons, List.mem_cons, not_or] at untouched
            exact Or.inl ⟨(firstRows other).mpr (Or.inl ⟨old, untouched.1⟩), untouched.2⟩
          · rcases List.mem_cons.mp inRows with rfl | inRest
            · exact Or.inl ⟨(firstRows _).mpr (Or.inr rfl), apart.1⟩
            · exact Or.inr ⟨pair, inRest, rfl⟩
      · rw [later.attempts, advanced.attempts]
        simp
      · refine ⟨eventRow :: laterEvents, ?_, ?_⟩
        · rw [eventsAppended, eventAppended]
          simp
        · intro event member
          rcases List.mem_cons.mp member with rfl | inLater
          · rw [eventType, started.eventType]
          · exact eventTypes event inLater
      · refine ⟨outboxRow :: laterOutbox, ?_, ?_, ?_⟩
        · rw [outboxAppended, rowAppended]
          simp
        · intro row member
          rcases List.mem_cons.mp member with rfl | inLater
          · rw [outboxType, started.eventType]
          · exact outboxTypes row inLater
        · intro row member
          rcases List.mem_cons.mp member with rfl | inLater
          · exact unused
          · intro taken
            refine outboxUnused row inLater ?_
            rw [rowAppended, List.map_append, List.mem_append]
            exact Or.inl taken
      · have elsewhere := later.elsewhere
        rw [Db.SameElsewhere] at elsewhere ⊢
        rw [elsewhere, advanced.elsewhere]

section Batch

variable {now : Timestamp} {rows : List DeliveryRow} {claimed : List Delivery} {db after : Db}

theorem Batch.start (batch : Batch now rows claimed db after) (pair : DeliveryRow × Delivery)
    (member : pair ∈ rows.zip claimed) : StartOf pair.1 pair.2 :=
  (List.forall₂_iff_zip.mp batch.starts).2 member

theorem Batch.row_mem (batch : Batch now rows claimed db after) (pair : DeliveryRow × Delivery)
    (member : pair ∈ rows.zip claimed) : pair.1 ∈ db.deliveries :=
  batch.members _ (List.of_mem_zip member).1

theorem Batch.row_of_claimed (batch : Batch now rows claimed db after) (delivery : Delivery)
    (member : delivery ∈ claimed) : ∃ row, (row, delivery) ∈ rows.zip claimed := by
  have length := batch.starts.length_eq
  have seconds : (rows.zip claimed).map Prod.snd = claimed := List.map_snd_zip (by omega)
  rw [← seconds] at member
  obtain ⟨⟨row, other⟩, inZip, rfl⟩ := List.mem_map.mp member
  exact ⟨row, inZip⟩

theorem Batch.ids (batch : Batch now rows claimed db after) :
    claimed.map (·.id) = rows.map (·.id) := by
  have paired := batch.starts
  clear batch
  induction paired with
  | nil => rfl
  | cons start _ ih => rw [List.map_cons, List.map_cons, ih, start.same.id]

theorem Batch.holds (batch : Batch now rows claimed db after) (delivery : Delivery)
    (member : delivery ∈ claimed) : ∃ row ∈ after.deliveries, Holds row delivery := by
  obtain ⟨row, inZip⟩ := batch.row_of_claimed delivery member
  exact ⟨advancedRow now delivery row, (batch.tables _).mpr (Or.inr ⟨_, inZip, rfl⟩),
    advancedRow_holds now row delivery (batch.start _ inZip).same⟩

theorem Batch.other (batch : Batch now rows claimed db after) (row : DeliveryRow)
    (untouched : row.id ∉ rows.map (·.id)) : row ∈ after.deliveries ↔ row ∈ db.deliveries := by
  rw [batch.tables row]
  constructor
  · rintro (old | ⟨pair, inZip, rfl⟩)
    · exact old.1
    · exact absurd (List.mem_map_of_mem (List.of_mem_zip inZip).1) untouched
  · exact fun old => Or.inl ⟨old, untouched⟩

end Batch

theorem ClaimedAll.ledger {now : Timestamp} {rows : List DeliveryRow} {claimed : List Delivery}
    {db after : Db} (claimedAll : ClaimedAll now rows claimed db after)
    (transitions : DeliveryId → Nat) (ledger : Ledger db transitions) :
    Ledger after fun id => (claimed.map (·.id)).count id + transitions id := by
  induction claimedAll generalizing transitions with
  | none => simpa using ledger
  | @more row rows delivery claimed db middle after first rest ih =>
      have readable := ledger.readable row first.member
      obtain ⟨before, event, read, started, advanced⟩ := first.claimed
      have stale := stale_read db row first.member readable before read
      have counted := ih _ (ledger_advance ledger stale started.moves advanced)
      have same : (fun id => (claimed.map (·.id)).count id +
          (if id = delivery.id then transitions id + 1 else transitions id)) =
          fun id => ((delivery :: claimed).map (·.id)).count id + transitions id := by
        funext id
        rw [List.map_cons, List.count_cons]
        by_cases equal : id = delivery.id
        · simp only [equal, if_true, beq_self_eq_true]
          omega
        · have differs : ¬ delivery.id = id := fun other => equal other.symm
          simp [equal, differs]
      rwa [same] at counted

theorem ClaimedAll.stale {now : Timestamp} {rows : List DeliveryRow} {claimed : List Delivery}
    {db after : Db} (claimedAll : ClaimedAll now rows claimed db after)
    (distinct : (db.deliveries.map (·.id)).Nodup) (reader : Delivery) (stale : Stale db reader) :
    Stale after reader := by
  induction claimedAll with
  | none => exact stale
  | more first rest ih =>
      obtain ⟨_, _, _, _, advanced⟩ := first.claimed
      exact ih (by rw [advanced.ids]; exact distinct) (stale_advance distinct reader stale advanced)

structure Claimable (snapshot : ClaimSnapshot) (row : DeliveryRow) : Prop where
  ready : row.status = .queued ∨ row.status = .retrying
  due : ∀ time ∈ row.nextAttemptAt, time ≤ snapshot.now
  gate : row.tier = 0 ∨ ∀ lower ∈ snapshot.rows, lower.alertId = row.alertId →
    lower.consumerId = row.consumerId → lower.tier < row.tier → lower.status = .failedPermanently

theorem claimable_spec (snapshot : ClaimSnapshot) (row : DeliveryRow)
    (h : claimable snapshot row = true) : Claimable snapshot row := by
  simp only [claimable, Bool.and_eq_true, Bool.or_eq_true, decide_eq_true_eq, Bool.not_eq_true',
    List.any_eq_false] at h
  obtain ⟨⟨ready, due⟩, gate⟩ := h
  refine ⟨ready, ?_, gate.imp_right fun none lower member alert consumer tier => ?_⟩
  · intro time scheduled
    have same : row.nextAttemptAt = some time := scheduled
    rw [same] at due
    exact of_decide_eq_true due
  · have blocked := none lower member
    simp only [alert, consumer, tier, true_and, Decidable.not_not] at blocked
    exact blocked

theorem claimable_intro (snapshot : ClaimSnapshot) (row : DeliveryRow)
    (claimable_ : Claimable snapshot row) : claimable snapshot row = true := by
  obtain ⟨ready, due, gate⟩ := claimable_
  simp only [claimable, Bool.and_eq_true, Bool.or_eq_true, decide_eq_true_eq, Bool.not_eq_true',
    List.any_eq_false]
  refine ⟨⟨ready, ?_⟩, gate.imp_right fun failed lower member => ?_⟩
  · cases scheduled : row.nextAttemptAt with
    | none => rfl
    | some time => exact decide_eq_true (due time scheduled)
  · intro blocking
    obtain ⟨⟨⟨alert, consumer⟩, tier⟩, open_⟩ := blocking
    exact open_ (failed lower member alert consumer tier)

theorem lockClaimable_mem (tie : Uuid → Nat) (locked : List Uuid) (limit : Nat)
    (snapshot : ClaimSnapshot) (db : Db) (row : DeliveryRow)
    (member : row ∈ lockClaimable tie locked limit snapshot db) :
    row ∈ db.deliveries ∧ Claimable snapshot row ∧ ∃ old ∈ snapshot.rows, old.id = row.id := by
  have chosen := List.mem_of_mem_take member
  simp only [List.mem_filter, List.mem_filterMap] at chosen
  obtain ⟨⟨old, candidate, found⟩, ready⟩ := chosen
  obtain ⟨inTable, same⟩ := lookup_some _ _ _ _ found
  have inSnapshot := ((mem_orderBy _ _ _ _).mp candidate.1)
  exact ⟨inTable, claimable_spec snapshot row ready, old, (List.mem_filter.mp inSnapshot).1,
    same.symm⟩

theorem lockClaimable_distinct (tie : Uuid → Nat) (locked : List Uuid) (limit : Nat)
    (snapshot : ClaimSnapshot) (db : Db) (distinct : (snapshot.rows.map (·.id)).Nodup) :
    ((lockClaimable tie locked limit snapshot db).map (·.id)).Nodup := by
  have candidates : ((orderBy (·.createdAt) (fun row => tie row.id.uuid)
      (snapshot.rows.filter (claimable snapshot))).map (·.id)).Nodup := by
    refine ((orderBy_perm _ _ _).map _).nodup_iff.mpr ?_
    exact (List.filter_sublist.map _).nodup distinct
  have free := ((List.filter_sublist (p := fun row : DeliveryRow => row.id.uuid ∉ locked)).map
    (·.id)).nodup candidates
  have current := (lookup_rows_sublist (·.id) db.deliveries _).nodup free
  exact ((List.take_sublist _ _).map _).nodup ((List.filter_sublist.map _).nodup current)

theorem lockClaimable_complete (tie : Uuid → Nat) (limit : Nat) (snapshot : ClaimSnapshot) (db : Db)
    (distinct : (db.deliveries.map (·.id)).Nodup) (row : DeliveryRow) (member : row ∈ db.deliveries)
    (seen : row ∈ snapshot.rows) (ready : claimable snapshot row = true)
    (room : snapshot.rows.length ≤ limit) : row ∈ lockClaimable tie [] limit snapshot db := by
  have candidate : row ∈ orderBy (·.createdAt) (fun row => tie row.id.uuid)
      (snapshot.rows.filter (claimable snapshot)) := by
    rw [mem_orderBy, List.mem_filter]
    exact ⟨seen, ready⟩
  have found : lookup (·.id) row.id db.deliveries = some row :=
    lookup_mem (·.id) db.deliveries distinct row member
  have length : (orderBy (·.createdAt) (fun row => tie row.id.uuid)
      (snapshot.rows.filter (claimable snapshot))).length ≤ snapshot.rows.length := by
    rw [(orderBy_perm _ _ _).length_eq]
    exact List.length_filter_le _ _
  simp only [lockClaimable]
  rw [List.take_of_length_le]
  · rw [List.mem_filter, List.mem_filterMap]
    exact ⟨⟨row, by simpa using candidate, found⟩, ready⟩
  · apply (List.length_filter_le _ _).trans
    apply (List.length_filterMap_le _ _).trans
    apply (List.length_filter_le _ _).trans
    exact length.trans room

namespace PostgresDeliveryRepository

theorem claimRows_no_panic (now : Timestamp) (fresh : Supply) (index : Nat)
    (rows : List DeliveryRow) (db : Db) (distinct : (db.deliveries.map (·.id)).Nodup)
    (readable : ∀ row ∈ db.deliveries, Readable row) (members : ∀ row ∈ rows, row ∈ db.deliveries)
    (apart : (rows.map (·.id)).Nodup)
    (ready : ∀ row ∈ rows, row.status = .queued ∨ row.status = .retrying) (message : String) :
    claimRows now fresh index rows db ≠ .error (.panic message) := by
  induction rows generalizing index db with
  | nil => simp [claimRows]
  | cons row rows ih =>
      have member := members row List.mem_cons_self
      intro panicked
      simp only [claimRows, bind_error, pure, Except.pure, reduceCtorEq, and_false, exists_false,
        or_false] at panicked
      rcases panicked with first | ⟨⟨delivery, middle⟩, first, later⟩
      · exact claimRow_no_panic now _ row db distinct member (readable row member)
          (ready row List.mem_cons_self) message first
      · have effect := claimRow_effect now _ row db middle delivery member first
        rw [List.map_cons, List.nodup_cons] at apart
        refine ih (index + 1) middle ?_ (effect.readable distinct readable) ?_ apart.2
          (fun other inRows => ready other (List.mem_cons_of_mem _ inRows)) later
        · obtain ⟨_, _, _, _, advanced⟩ := effect.claimed
          rw [advanced.ids]
          exact distinct
        · intro other inRows
          refine (effect.rows distinct readable other).mpr (Or.inl
            ⟨members other (List.mem_cons_of_mem _ inRows), fun equal => apart.1 ?_⟩)
          exact equal ▸ List.mem_map_of_mem inRows

theorem claimNext_batch (tie : Uuid → Nat) (locked : List Uuid) (fresh : Supply) (limit : Nat)
    (snapshot : ClaimSnapshot) (db after : Db) (claimed : List Delivery)
    (distinct : (db.deliveries.map (·.id)).Nodup) (readable : ∀ row ∈ db.deliveries, Readable row)
    (apart : (snapshot.rows.map (·.id)).Nodup)
    (h : claimNext tie locked fresh limit snapshot db = .ok (.commit claimed after)) :
    Batch snapshot.now (lockClaimable tie locked limit snapshot db) claimed db after := by
  simp only [claimNext, bind_ok, pure, Except.pure, Except.ok.injEq, Ending.commit.injEq] at h
  obtain ⟨⟨_, _⟩, started, rfl, rfl⟩ := h
  have different := lockClaimable_distinct tie locked limit snapshot db apart
  exact (claimRows_effect _ _ _ _ _ _ _ distinct readable
    (fun row member => (lockClaimable_mem _ _ _ _ _ row member).1) different started).batch distinct
      readable different

theorem claimNext_no_panic (tie : Uuid → Nat) (locked : List Uuid) (fresh : Supply) (limit : Nat)
    (snapshot : ClaimSnapshot) (db : Db) (distinct : (db.deliveries.map (·.id)).Nodup)
    (readable : ∀ row ∈ db.deliveries, Readable row) (apart : (snapshot.rows.map (·.id)).Nodup)
    (failure : Failure) (h : claimNext tie locked fresh limit snapshot db = .error failure) :
    failure = .database := by
  simp only [claimNext, bind_error, pure, Except.pure, reduceCtorEq, and_false, exists_false,
    or_false] at h
  cases failure with
  | database => rfl
  | panic message =>
      refine absurd h (claimRows_no_panic _ _ _ _ _ distinct readable
        (fun row member => (lockClaimable_mem _ _ _ _ _ row member).1)
        (lockClaimable_distinct tie locked limit snapshot db apart)
        (fun row member => (lockClaimable_mem _ _ _ _ _ row member).2.1.ready) message)

end PostgresDeliveryRepository

end SafeCameroon
