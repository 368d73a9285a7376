import SafeCameroon.Aggregate.AlertLedger
import SafeCameroon.Delivery.Grounds
import SafeCameroon.Delivery.Pool

namespace SafeCameroon

open Table Process PostgresAlertRepository

def AlertStored (db : Db) (id : Uuid) : Prop := ∃ row ∈ db.alerts, row.id = ⟨id⟩

/-- Rows were added to the outbox under new ids, claimed and published by nobody; those that announce an
alert announce one of these. -/
def Posted (announced : Uuid → Prop) (db after : Db) : Prop :=
  ∃ added, after.outboxEvents = db.outboxEvents ++ added ∧
    (∀ row ∈ added, row.id ∉ db.outboxEvents.map (·.id)) ∧ (added.map (·.id)).Nodup ∧
    ∀ row ∈ added, row.claimedAt = none ∧ row.publishedAt = none ∧
      (row.eventType = SubscriptionMatching.alertCreatedEventType → announced row.aggregateId)

namespace Posted

variable {announced : Uuid → Prop} {db middle after : Db}

theorem same (outbox : after.outboxEvents = db.outboxEvents) : Posted announced db after :=
  ⟨[], by simp [outbox], by simp, List.nodup_nil, by simp⟩

theorem single (row : OutboxRow) (unused : row.id ∉ db.outboxEvents.map (·.id))
    (unclaimed : row.claimedAt = none) (unpublished : row.publishedAt = none)
    (stored : row.eventType = SubscriptionMatching.alertCreatedEventType → announced row.aggregateId)
    (outbox : after.outboxEvents = db.outboxEvents ++ [row]) : Posted announced db after := by
  refine ⟨[row], outbox, ?_, List.nodup_singleton _, ?_⟩
  · intro other member
    rw [List.mem_singleton.mp member]
    exact unused
  · intro other member
    rw [List.mem_singleton.mp member]
    exact ⟨unclaimed, unpublished, stored⟩

theorem trans (first : Posted announced db middle) (second : Posted announced middle after) :
    Posted announced db after := by
  obtain ⟨earlier, appended, unused, distinct, rows⟩ := first
  obtain ⟨later, extended, apart, nodup, more⟩ := second
  rw [appended] at extended apart
  refine ⟨earlier ++ later, by rw [extended, List.append_assoc], ?_, ?_, ?_⟩
  · intro row member old
    rcases List.mem_append.mp member with inFirst | inLater
    · exact unused row inFirst old
    · apply apart row inLater
      rw [List.map_append, List.mem_append]
      exact Or.inl old
  · rw [List.map_append, List.nodup_append]
    refine ⟨distinct, nodup, ?_⟩
    intro id inFirst other inLater equal
    obtain ⟨row, member, rfl⟩ := List.mem_map.mp inLater
    apply apart row member
    rw [List.map_append, List.mem_append, ← equal]
    exact Or.inr inFirst
  · intro row member
    rcases List.mem_append.mp member with inFirst | inLater
    · exact rows row inFirst
    · exact more row inLater

end Posted

theorem deliveryEvent_plain (type : DeliveryEventType) :
    type.asDatabaseValue ≠ SubscriptionMatching.alertCreatedEventType := by
  cases type <;> decide

theorem Inserted.posted {now : Timestamp} {item : PlannedDelivery} {db after : Db}
    (announced : Uuid → Prop) (inserted : Inserted now item db after) :
    Posted announced db after := by
  obtain ⟨row, _, _, type, unclaimed, unpublished, unused, outbox⟩ := inserted.outbox
  refine .single row unused unclaimed unpublished (fun same => ?_) outbox
  exact absurd (type.symm.trans same) (deliveryEvent_plain _)

theorem Advanced.posted {now : Timestamp} {delivery : Delivery} {event : DeliveryEvent}
    {attempt : Option DeliveryAttempt} {db after : Db} (announced : Uuid → Prop)
    (advanced : Advanced now delivery event attempt db after) : Posted announced db after := by
  obtain ⟨row, _, _, type, unclaimed, unpublished, unused, outbox⟩ := advanced.outbox
  refine .single row unused unclaimed unpublished (fun same => ?_) outbox
  exact absurd (type.symm.trans same) (deliveryEvent_plain _)

theorem ClaimedAll.posted {now : Timestamp} {rows : List DeliveryRow} {claimed : List Delivery}
    {db after : Db} (announced : Uuid → Prop) (claimedAll : ClaimedAll now rows claimed db after) :
    Posted announced db after := by
  induction claimedAll with
  | none => exact .same rfl
  | more first rest ih =>
      obtain ⟨_, _, _, _, advanced⟩ := first.claimed
      exact (advanced.posted announced).trans ih

def Call.taken : (call : Call) → Except Failure call.Res → List ClaimedOutboxEvent
  | .claimUnpublished _ _, .ok events => events
  | _, _ => []

inductive Announces (env : Env) (db after : Db) : (call : Call) → Except Failure call.Res → Prop where
  | posted {call : Call} {answer : Except Failure call.Res}
      (posted : Posted (AlertStored after) db after) (none : call.taken answer = []) :
      Announces env db after call answer
  | claimed {eventType : String} {limit : Nat} {rows : List OutboxRow}
      (free : ∀ row ∈ rows, row ∈ db.outboxEvents ∧ row.claimedAt = none ∧ row.eventType = eventType)
      (apart : (db.outboxEvents.map (·.id)).Nodup → (rows.map (·.id)).Nodup)
      (outbox : after.outboxEvents = updateWhere (fun row => decide (row.id ∈ rows.map (·.id)))
        (fun row => { row with claimedAt := some env.now }) db.outboxEvents) :
      Announces env db after (.claimUnpublished eventType limit)
        (.ok (rows.map fun row =>
          { id := row.id, aggregateId := row.aggregateId, payload := row.payload }))
  | published {id : Uuid}
      (outbox : after.outboxEvents = updateWhere (fun row => decide (row.id = id))
        (fun row => { row with publishedAt := some env.now }) db.outboxEvents) :
      Announces env db after (.markPublished id) (.ok ())

theorem transaction_posted {α : Type} (fault : Bool) (body : Db → Except Failure (Ending Db α))
    (db : Db) (posts : ∀ value after, body db = .ok (.commit value after) →
      Posted (AlertStored after) db after) :
    Posted (AlertStored (transaction fault .database body db).2) db
      (transaction fault .database body db).2 :=
  transaction_related (fun db after => Posted (AlertStored after) db after) (fun _ => .same rfl)
    fault .database body db posts

def AlertRow.Legible (row : AlertRow) : Prop :=
  ∃ geography, TargetGeography.new row.targetGeography = .ok geography

/-- Every alert is still there, a new one can be read back, and no callback on record is forgotten. -/
structure GoesOn (db after : Db) : Prop where
  kept : ∀ row ∈ db.alerts, ∃ later ∈ after.alerts, later.id = row.id
  legible : (∀ row ∈ db.alerts, row.Legible) → ∀ row ∈ after.alerts, row.Legible
  replays : db.webhookReplayEvents ⊆ after.webhookReplayEvents

theorem GoesOn.same {db after : Db} (alerts : after.alerts = db.alerts)
    (replays : db.webhookReplayEvents ⊆ after.webhookReplayEvents) : GoesOn db after := by
  refine ⟨?_, ?_, replays⟩
  · intro row member
    exact ⟨row, alerts ▸ member, rfl⟩
  · rw [alerts]
    exact fun legible => legible

theorem GoesOn.refl (db : Db) : GoesOn db db := .same rfl (List.Subset.refl _)

/-- The alerts are as they were, and no callback on record is forgotten. -/
structure Steady (db after : Db) : Prop where
  alerts : after.alerts = db.alerts
  replays : db.webhookReplayEvents ⊆ after.webhookReplayEvents

theorem Steady.refl (db : Db) : Steady db db := ⟨rfl, List.Subset.refl _⟩

theorem Steady.goesOn {db after : Db} (steady : Steady db after) : GoesOn db after :=
  .same steady.alerts steady.replays

/-- Every alert was there, or it is the one that the request creates and its event is in the outbox. -/
def AlertsFrom (edit : Edit) (db after : Db) : Prop :=
  ∀ later ∈ after.alerts, (∃ row ∈ db.alerts, row.id = later.id) ∨
    ∃ creation, edit = .createAlert creation ∧ ∃ row ∈ after.outboxEvents,
      row.aggregateId = later.id.uuid ∧ row.eventType = creation.event.eventType.asDatabaseValue

theorem AlertsFrom.same {db after : Db} (edit : Edit) (alerts : after.alerts = db.alerts) :
    AlertsFrom edit db after := by
  intro later member
  exact Or.inl ⟨later, alerts ▸ member, rfl⟩

theorem AlertStored.kept {db after : Db} {id : Uuid} (stored : AlertStored db id)
    (goOn : GoesOn db after) : AlertStored after id := by
  obtain ⟨row, member, same⟩ := stored
  obtain ⟨later, inTable, equal⟩ := goOn.kept row member
  exact ⟨later, inTable, equal.trans same⟩

section Edits

variable {now : Timestamp} {db after : Db}

theorem Created.alerts {creation : AlertCreation} (created : Created now creation db after) :
    AlertStored after creation.alert.id.uuid ∧ GoesOn db after := by
  have inserted := created.inserted
  have replays : db.webhookReplayEvents ⊆ after.webhookReplayEvents := by
    rw [created.elsewhere]
    exact List.Subset.refl _
  generalize same : after.alerts = alerts at inserted
  cases inserted with
  | again key stored =>
      obtain ⟨row, member, _, equal⟩ := Keyed.idByKey_some _ _ _ _ _ stored
      exact ⟨⟨row, same ▸ member, equal⟩, .same same replays⟩
  | new free =>
      refine ⟨⟨alertRow creation, ?_, rfl⟩, ?_, ?_, replays⟩
      · rw [same]
        exact List.mem_append_right _ (List.mem_singleton_self _)
      · intro row member
        exact ⟨row, by rw [same]; exact List.mem_append_left _ member, rfl⟩
      · intro legible row member
        rw [same] at member
        rcases List.mem_append.mp member with old | new
        · exact legible row old
        · rw [List.mem_singleton.mp new]
          exact ⟨creation.alert.targetGeography, TargetGeography.new_text _⟩

theorem Created.alertsFrom {creation : AlertCreation} (created : Created now creation db after) :
    AlertsFrom (.createAlert creation) db after := by
  intro later member
  have inserted := created.inserted
  generalize same : after.alerts = alerts at inserted member
  cases inserted with
  | again key stored => exact Or.inl ⟨later, member, rfl⟩
  | new free =>
      rcases List.mem_append.mp member with old | new
      · exact Or.inl ⟨later, old, rfl⟩
      · rw [List.mem_singleton.mp new]
        have posted := List.mem_append_right db.outboxEvents (List.mem_singleton_self
          (outboxRow now "ALERT" creation.outboxEventId creation.alert.id.uuid
            creation.event.eventType.asDatabaseValue (alertCreatedEventPayload creation)))
        rw [← created.outbox] at posted
        exact Or.inr ⟨creation, rfl, _, posted, rfl, rfl⟩

theorem Created.posted {creation : AlertCreation} (created : Created now creation db after) :
    Posted (AlertStored after) db after :=
  .single _ created.unused rfl rfl (fun _ => (Created.alerts created).1) created.outbox

theorem Cancelled.alerts {alert : Alert} {cancellation : AlertCancellation}
    (cancelled : Cancelled now alert cancellation db after) :
    AlertStored after alert.id.uuid ∧ GoesOn db after := by
  have rows : ∀ later, later ∈ after.alerts ↔ ∃ row ∈ db.alerts,
      (row.id = alert.id ∧ row.aggregateVersion + 1 = alert.version ∧ later = cancelledRow alert row) ∨
        (¬(row.id = alert.id ∧ row.aggregateVersion + 1 = alert.version) ∧ later = row) := by
    intro later
    rw [cancelled.alerts, mem_updateWhere]
    simp only [Bool.and_eq_true, decide_eq_true_eq, Bool.and_eq_false_iff, decide_eq_false_iff_not,
      and_assoc, not_and_or]
  have goOn : GoesOn db after := by
    refine ⟨?_, ?_, ?_⟩
    · intro row member
      by_cases chosen : row.id = alert.id ∧ row.aggregateVersion + 1 = alert.version
      · exact ⟨cancelledRow alert row,
          (rows _).mpr ⟨row, member, Or.inl ⟨chosen.1, chosen.2, rfl⟩⟩, rfl⟩
      · exact ⟨row, (rows _).mpr ⟨row, member, Or.inr ⟨chosen, rfl⟩⟩, rfl⟩
    · intro legible later member
      obtain ⟨row, old, ⟨_, _, rfl⟩ | ⟨_, rfl⟩⟩ := (rows later).mp member
      · exact legible row old
      · exact legible _ old
    · rw [cancelled.elsewhere]
      exact List.Subset.refl _
  refine ⟨?_, goOn⟩
  obtain ⟨row, member, same, _⟩ := cancelled.matched
  obtain ⟨later, inTable, equal⟩ := goOn.kept row member
  exact ⟨later, inTable, equal.trans same⟩

theorem Cancelled.alertsFrom {alert : Alert} {cancellation : AlertCancellation} (edit : Edit)
    (cancelled : Cancelled now alert cancellation db after) : AlertsFrom edit db after := by
  intro later member
  rw [cancelled.alerts, mem_updateWhere] at member
  obtain ⟨row, old, ⟨_, rfl⟩ | ⟨_, rfl⟩⟩ := member
  · exact Or.inl ⟨row, old, rfl⟩
  · exact Or.inl ⟨_, old, rfl⟩

theorem Cancelled.posted {alert : Alert} {cancellation : AlertCancellation}
    (cancelled : Cancelled now alert cancellation db after) : Posted (AlertStored after) db after :=
  .single _ cancelled.unused rfl rfl (fun _ => (Cancelled.alerts cancelled).1) cancelled.outbox

theorem runEdit_announces (env : Env) (edit : Edit) (value : Unit)
    (h : runEdit env edit db = .ok (.commit value after)) :
    Posted (AlertStored after) db after ∧ GoesOn db after ∧ AlertsFrom edit db after := by
  have plain : after.alerts = db.alerts → after.outboxEvents = db.outboxEvents →
      after.webhookReplayEvents = db.webhookReplayEvents →
      Posted (AlertStored after) db after ∧ GoesOn db after ∧ AlertsFrom edit db after :=
    fun alerts outbox replays =>
      ⟨.same outbox, .same alerts (replays ▸ List.Subset.refl _), .same edit alerts⟩
  cases edit with
  | createAlert creation =>
      simp only [runEdit, bind_ok] at h
      obtain ⟨ending, created, rest⟩ := h
      cases ending with
      | rollback outcome => simp [pure, Except.pure] at rest
      | commit outcome final =>
          simp only [pure, Except.pure, Except.ok.injEq, Ending.commit.injEq] at rest
          obtain ⟨_, rfl⟩ := rest
          have effect := (create_effect _ _ _ _ _ created).2
          exact ⟨Created.posted effect, (Created.alerts effect).2, Created.alertsFrom effect⟩
  | cancelAlert alert cancellation =>
      simp only [runEdit, bind_ok] at h
      obtain ⟨ending, cancelled, rest⟩ := h
      cases ending with
      | rollback outcome => simp [pure, Except.pure] at rest
      | commit outcome final =>
          simp only [pure, Except.pure, Except.ok.injEq, Ending.commit.injEq] at rest
          obtain ⟨_, rfl⟩ := rest
          have effect := (cancel_effect _ _ _ _ _ _ cancelled).2
          exact ⟨Cancelled.posted effect, (Cancelled.alerts effect).2, Cancelled.alertsFrom _ effect⟩
  | createConsumer row =>
      simp only [runEdit, PostgresConsumerRepository.create, bind_ok, pure, Except.pure,
        Except.ok.injEq, Ending.commit.injEq] at h
      obtain ⟨_, _, _, rfl⟩ := h
      exact plain rfl rfl rfl
  | createSubscription subscription =>
      simp only [runEdit, PostgresSubscriptionRepository.create, bind_ok, pure, Except.pure,
        Except.ok.injEq, Ending.commit.injEq] at h
      obtain ⟨_, _, _, rfl⟩ := h
      exact plain rfl rfl rfl
  | updateSubscription auditEventId subscription actor requestId =>
      simp only [runEdit, bind_ok] at h
      obtain ⟨ending, updated, rest⟩ := h
      cases ending with
      | rollback outcome => simp [pure, Except.pure] at rest
      | commit outcome final =>
          simp only [pure, Except.pure, Except.ok.injEq, Ending.commit.injEq] at rest
          obtain ⟨_, rfl⟩ := rest
          simp only [PostgresSubscriptionRepository.update] at updated
          split at updated
          · simp only [bind_ok, pure, Except.pure, Except.ok.injEq, Ending.commit.injEq] at updated
            obtain ⟨second, audit, _, rfl⟩ := updated
            obtain ⟨rfl, _⟩ := insertAuditEvent_ok _ _ _ _ _ _ _ _ audit
            exact plain rfl rfl rfl
          · simp [pure, Except.pure] at updated
  | deleteSubscription id =>
      simp only [runEdit, PostgresSubscriptionRepository.delete, Except.ok.injEq,
        Ending.commit.injEq] at h
      obtain ⟨_, rfl⟩ := h
      exact plain rfl rfl rfl
  | upsertPreference consumerId preference =>
      simp only [runEdit, PostgresDeliveryPreferenceRepository.upsert, Except.ok.injEq,
        Ending.commit.injEq] at h
      obtain ⟨_, rfl⟩ := h
      exact plain rfl rfl rfl

end Edits

theorem transaction_goesOn {α : Type} (fault : Bool) (body : Db → Except Failure (Ending Db α))
    (db : Db) (goesOn : ∀ value after, body db = .ok (.commit value after) → GoesOn db after) :
    GoesOn db (transaction fault .database body db).2 :=
  transaction_related GoesOn .refl fault .database body db goesOn

section Call

variable {db : Db} {transitions : DeliveryId → Nat}

theorem recordIfNew_same (channel : ChannelType) (providerEventId : String) (value : Bool)
    (after : Db) (result : PostgresWebhookReplayGuard.recordIfNew channel providerEventId db =
      .ok (.commit value after)) : after.outboxEvents = db.outboxEvents ∧
    after.alerts = db.alerts ∧ db.webhookReplayEvents ⊆ after.webhookReplayEvents := by
  simp only [PostgresWebhookReplayGuard.recordIfNew] at result
  split at result
  · simp at result
  · split at result <;>
    · simp only [Except.ok.injEq, Ending.commit.injEq] at result
      obtain ⟨_, rfl⟩ := result
      exact ⟨rfl, rfl, by simp⟩

theorem lockAndStart_all {limit : Nat} {snapshot : ClaimSnapshot} (ledger : Ledger db transitions)
    (env : Env) (informed : Informed db (.lockAndStart limit snapshot)) (claimed : List Delivery)
    (after : Db) (result : PostgresDeliveryRepository.claimNext env.tie env.locked env.fresh limit
      snapshot db = .ok (.commit claimed after)) :
    ClaimedAll snapshot.now (lockClaimable env.tie env.locked limit snapshot db) claimed db after := by
  simp only [PostgresDeliveryRepository.claimNext, bind_ok, pure, Except.pure, Except.ok.injEq,
    Ending.commit.injEq] at result
  obtain ⟨⟨_, _⟩, started, rfl, rfl⟩ := result
  exact PostgresDeliveryRepository.claimRows_effect _ _ _ _ _ _ _ ledger.distinct ledger.readable
    (fun row member => (lockClaimable_mem _ _ _ _ _ row member).1)
    (lockClaimable_distinct _ _ _ _ _ informed) started

/-- Only a request changes the alerts. -/
theorem Informed.steady {call : Call} (informed : Informed db call) (ledger : Ledger db transitions)
    (env : Env) (plain : ∀ edit, call ≠ .edit edit) : Steady db (runCall env call db).2 := by
  have elsewhere : ∀ {after : Db}, Db.SameElsewhere db after → Steady db after := by
    intro after same
    rw [same]
    exact ⟨rfl, List.Subset.refl _⟩
  have commits : ∀ {α : Type} (body : Db → Except Failure (Ending Db α)),
      (∀ value after, body db = .ok (.commit value after) → Steady db after) →
        Steady db (transaction env.fault .database body db).2 :=
    fun body => transaction_related Steady .refl _ _ body db
  cases call with
  | claimUnpublished eventType limit =>
      refine commits _ fun events after result => ?_
      simp only [PostgresOutboxRepository.claimUnpublished, pure, Except.pure, Except.ok.injEq,
        Ending.commit.injEq] at result
      obtain ⟨_, rfl⟩ := result
      exact ⟨rfl, List.Subset.refl _⟩
  | markPublished id =>
      refine commits _ fun value after result => ?_
      simp only [PostgresOutboxRepository.markPublished, pure, Except.pure, Except.ok.injEq,
        Ending.commit.injEq] at result
      obtain ⟨_, rfl⟩ := result
      exact ⟨rfl, List.Subset.refl _⟩
  | createPlannedItem item =>
      refine commits _ fun value after result => ?_
      rcases PostgresDeliveryRepository.createPlannedItem_effect _ _ _ _ result with
        ⟨rolled, _⟩ | ⟨final, commit, inserted⟩
      · simp at rolled
      · obtain rfl : after = final := by simpa using commit
        exact elsewhere inserted.elsewhere
  | lockAndStart limit snapshot =>
      refine commits _ fun claimed after result => ?_
      exact elsewhere ((lockAndStart_all ledger env informed claimed after result).batch
        ledger.distinct ledger.readable (lockClaimable_distinct _ _ _ _ _ informed)).elsewhere
  | applyTransition delivery transition =>
      refine commits _ fun value after result => ?_
      rcases PostgresDeliveryRepository.applyTransition_effect _ _ _ _ _ result with
        ⟨rolled, _⟩ | ⟨final, commit, advanced⟩
      · simp at rolled
      · obtain ⟨_, rfl⟩ : value = .applied ∧ after = final := by simpa using commit
        exact elsewhere advanced.elsewhere
  | applyAttemptTransition delivery transition =>
      refine commits _ fun value after result => ?_
      rcases PostgresDeliveryRepository.applyAttemptTransition_effect _ _ _ _ _ result with
        ⟨rolled, _⟩ | ⟨final, commit, advanced⟩
      · simp at rolled
      · obtain ⟨_, rfl⟩ : value = .applied ∧ after = final := by simpa using commit
        exact elsewhere advanced.elsewhere
  | recordIfNew channel providerEventId =>
      refine commits _ fun value after result => ?_
      obtain ⟨_, alerts, replays⟩ := recordIfNew_same channel providerEventId value after result
      exact ⟨alerts, replays⟩
  | edit edit => exact absurd rfl (plain edit)
  | findAlert id => exact .refl db
  | listSubscriptions => exact .refl db
  | findPreference consumerId => exact .refl db
  | beginClaim => exact .refl db
  | findConsumer id => exact .refl db
  | send deliveryId attempt channel message => exact .refl db
  | findSentAttempt providerMessageId => exact .refl db
  | findDelivery id => exact .refl db
  | findDeliveriesByAlert id => exact .refl db
  | respond callback status => exact .refl db

/-- Every alert was there, or the call is the request that creates it. -/
theorem Informed.alertsFrom {call : Call} (informed : Informed db call)
    (ledger : Ledger db transitions) (env : Env) (later : AlertRow)
    (member : later ∈ (runCall env call db).2.alerts) : (∃ row ∈ db.alerts, row.id = later.id) ∨
      ∃ creation, call = .edit (.createAlert creation) ∧
        ∃ row ∈ (runCall env call db).2.outboxEvents, row.aggregateId = later.id.uuid ∧
          row.eventType = creation.event.eventType.asDatabaseValue := by
  cases call with
  | edit edit =>
      have origin : AlertsFrom edit db (runCall env (.edit edit) db).2 :=
        transaction_related (AlertsFrom edit) (fun _ => .same edit rfl) _ _ _ db
          fun value after result => (runEdit_announces env edit value result).2.2
      rcases origin later member with old | ⟨creation, same, announced⟩
      · exact Or.inl old
      · exact Or.inr ⟨creation, congrArg Call.edit same, announced⟩
  | _ =>
      have steady := informed.steady ledger env fun edit same => by cases same
      exact Or.inl ⟨later, steady.alerts ▸ member, rfl⟩

theorem Informed.announcement {call : Call} (informed : Informed db call)
    (ledger : Ledger db transitions) (env : Env) :
    Announces env db (runCall env call db).2 call (runCall env call db).1 := by
  cases call with
  | claimUnpublished eventType limit =>
      rcases transaction_cases env.fault Failure.database (PostgresOutboxRepository.claimUnpublished
          env.now env.tie env.locked eventType limit) db with
        ⟨_, _, ended⟩ | ⟨_, result, ended⟩ | ⟨events, after, result, ended⟩
      · rw [runCall, ended]
        exact .posted (.same rfl) rfl
      · simp [PostgresOutboxRepository.claimUnpublished, pure, Except.pure] at result
      · rw [runCall, ended]
        simp only [PostgresOutboxRepository.claimUnpublished, pure, Except.pure, Except.ok.injEq,
          Ending.commit.injEq] at result
        obtain ⟨rfl, rfl⟩ := result
        refine .claimed ?_ ?_ rfl
        · intro row member
          have inTable := (mem_orderBy _ _ _ _).mp (List.mem_of_mem_take member)
          simp only [List.mem_filter, PostgresOutboxRepository.claimable, Bool.and_eq_true,
            decide_eq_true_eq, Option.isNone_iff_eq_none] at inTable
          exact ⟨inTable.1, inTable.2.1.2, inTable.2.1.1.1⟩
        · intro distinct
          apply List.Nodup.sublist ((List.take_sublist _ _).map _)
          rw [((orderBy_perm _ _ _).map _).nodup_iff]
          exact distinct.sublist (List.filter_sublist.map _)
  | markPublished id =>
      rcases transaction_cases env.fault Failure.database
          (PostgresOutboxRepository.markPublished env.now id) db with
        ⟨_, _, ended⟩ | ⟨_, result, ended⟩ | ⟨_, after, result, ended⟩
      · rw [runCall, ended]
        exact .posted (.same rfl) rfl
      · simp [PostgresOutboxRepository.markPublished, pure, Except.pure] at result
      · rw [runCall, ended]
        simp only [PostgresOutboxRepository.markPublished, pure, Except.pure, Except.ok.injEq,
          Ending.commit.injEq] at result
        obtain ⟨_, rfl⟩ := result
        exact .published rfl
  | createPlannedItem item =>
      refine .posted (transaction_posted _ _ _ fun value after result => ?_) rfl
      rcases PostgresDeliveryRepository.createPlannedItem_effect _ _ _ _ result with
        ⟨rolled, _⟩ | ⟨final, commit, inserted⟩
      · simp at rolled
      · obtain rfl : after = final := by simpa using commit
        exact inserted.posted _
  | lockAndStart limit snapshot =>
      refine .posted (transaction_posted _ _ _ fun claimed after result => ?_) rfl
      exact (lockAndStart_all ledger env informed claimed after result).posted _
  | applyTransition delivery transition =>
      refine .posted (transaction_posted _ _ _ fun value after result => ?_) rfl
      rcases PostgresDeliveryRepository.applyTransition_effect _ _ _ _ _ result with
        ⟨rolled, _⟩ | ⟨final, commit, advanced⟩
      · simp at rolled
      · obtain ⟨_, rfl⟩ : value = .applied ∧ after = final := by simpa using commit
        exact advanced.posted _
  | applyAttemptTransition delivery transition =>
      refine .posted (transaction_posted _ _ _ fun value after result => ?_) rfl
      rcases PostgresDeliveryRepository.applyAttemptTransition_effect _ _ _ _ _ result with
        ⟨rolled, _⟩ | ⟨final, commit, advanced⟩
      · simp at rolled
      · obtain ⟨_, rfl⟩ : value = .applied ∧ after = final := by simpa using commit
        exact advanced.posted _
  | recordIfNew channel providerEventId =>
      refine .posted (transaction_posted _ _ _ fun value after result => ?_) rfl
      exact .same (recordIfNew_same channel providerEventId value after result).1
  | edit edit =>
      refine .posted (transaction_posted _ _ _ fun value after result => ?_) rfl
      exact (runEdit_announces env edit value result).1
  | findAlert id => exact .posted (.same rfl) rfl
  | listSubscriptions => exact .posted (.same rfl) rfl
  | findPreference consumerId => exact .posted (.same rfl) rfl
  | beginClaim => exact .posted (.same rfl) rfl
  | findConsumer id => exact .posted (.same rfl) rfl
  | send deliveryId attempt channel message => exact .posted (.same rfl) rfl
  | findSentAttempt providerMessageId => exact .posted (.same rfl) rfl
  | findDelivery id => exact .posted (.same rfl) rfl
  | findDeliveriesByAlert id => exact .posted (.same rfl) rfl
  | respond callback status => exact .posted (.same rfl) rfl

theorem Informed.announces {call : Call} (informed : Informed db call)
    (ledger : Ledger db transitions) (env : Env) :
    Announces env db (runCall env call db).2 call (runCall env call db).1 ∧
      GoesOn db (runCall env call db).2 := by
  refine ⟨informed.announcement ledger env, ?_⟩
  cases call with
  | edit edit =>
      exact transaction_goesOn _ _ _ fun value after result =>
        (runEdit_announces env edit value result).2.1
  | _ => exact (informed.steady ledger env fun edit same => by cases same).goesOn

end Call

structure OutboxGoesOn (db after : Db) (call : Call) (answer : Except Failure call.Res) : Prop where
  distinct : (after.outboxEvents.map (·.id)).Nodup
  announced : ∀ row ∈ after.outboxEvents,
    row.eventType = SubscriptionMatching.alertCreatedEventType → AlertStored after row.aggregateId
  kept : ∀ row ∈ db.outboxEvents, ∃ later ∈ after.outboxEvents, later.id = row.id ∧
    later.aggregateId = row.aggregateId ∧ later.eventType = row.eventType ∧
    (row.claimedAt ≠ none → later.claimedAt ≠ none) ∧
    (row.publishedAt ≠ none → later.publishedAt ≠ none)
  claimed : ∀ later ∈ after.outboxEvents, later.claimedAt ≠ none →
    (∃ row ∈ db.outboxEvents, row.id = later.id ∧ row.claimedAt ≠ none) ∨
      ∃ event ∈ call.taken answer, event.id = later.id
  published : ∀ later ∈ after.outboxEvents, later.publishedAt ≠ none →
    (∃ row ∈ db.outboxEvents, row.id = later.id ∧ row.publishedAt ≠ none) ∨
      ∀ pid time before, (⟨pid, call, answer, time, before⟩ : Entry) =
        ⟨pid, .markPublished later.id, .ok (), time, before⟩
  apart : ((call.taken answer).map (·.id)).Nodup
  free : ∀ event ∈ call.taken answer, ∃ row ∈ db.outboxEvents, row.id = event.id ∧
    row.claimedAt = none
  taken : ∀ event ∈ call.taken answer, ∃ row ∈ after.outboxEvents, row.id = event.id ∧
    row.aggregateId = event.aggregateId ∧ row.claimedAt ≠ none ∧
    ∀ eventType limit, call = .claimUnpublished eventType limit → row.eventType = eventType

theorem Announces.goesOn {env : Env} {db after : Db} {call : Call} {answer : Except Failure call.Res}
    (announces : Announces env db after call answer) (alerts : GoesOn db after)
    (distinct : (db.outboxEvents.map (·.id)).Nodup)
    (announced : ∀ row ∈ db.outboxEvents,
      row.eventType = SubscriptionMatching.alertCreatedEventType → AlertStored db row.aggregateId) :
    OutboxGoesOn db after call answer := by
  cases announces with
  | posted posted none =>
      obtain ⟨added, outbox, unused, nodup, rows⟩ := posted
      constructor
      · rw [outbox, List.map_append, List.nodup_append]
        refine ⟨distinct, nodup, ?_⟩
        intro id old other new same
        obtain ⟨row, member, rfl⟩ := List.mem_map.mp new
        exact unused row member (same ▸ old)
      · intro row member type
        rw [outbox] at member
        rcases List.mem_append.mp member with old | new
        · exact (announced row old type).kept alerts
        · exact (rows row new).2.2 type
      · intro row member
        refine ⟨row, ?_, rfl, rfl, rfl, id, id⟩
        rw [outbox]
        exact List.mem_append_left _ member
      · intro later member claimed
        rw [outbox] at member
        rcases List.mem_append.mp member with old | new
        · exact Or.inl ⟨later, old, rfl, claimed⟩
        · exact absurd (rows later new).1 claimed
      · intro later member published
        rw [outbox] at member
        rcases List.mem_append.mp member with old | new
        · exact Or.inl ⟨later, old, rfl, published⟩
        · exact absurd (rows later new).2.1 published
      · rw [none]
        exact List.nodup_nil
      · rw [none]
        simp
      · rw [none]
        simp
  | @claimed eventType limit rows free apart outbox =>
      have updated : ∀ later, later ∈ after.outboxEvents ↔ ∃ row ∈ db.outboxEvents,
          (row.id ∈ rows.map (·.id) ∧ later = { row with claimedAt := some env.now }) ∨
            (row.id ∉ rows.map (·.id) ∧ later = row) := by
        intro later
        rw [outbox, mem_updateWhere]
        simp only [decide_eq_true_eq, decide_eq_false_iff_not]
      constructor
      · have ids : after.outboxEvents.map (·.id) = db.outboxEvents.map (·.id) := by
          rw [outbox]
          exact map_key_updateWhere _ _ _ _ fun _ => rfl
        rw [ids]
        exact distinct
      · intro later member type
        obtain ⟨row, old, ⟨_, rfl⟩ | ⟨_, rfl⟩⟩ := (updated later).mp member
        · exact (announced row old type).kept alerts
        · exact (announced _ old type).kept alerts
      · intro row member
        by_cases chosen : row.id ∈ rows.map (·.id)
        · exact ⟨_, (updated _).mpr ⟨row, member, Or.inl ⟨chosen, rfl⟩⟩, rfl, rfl, rfl, by simp, id⟩
        · exact ⟨row, (updated _).mpr ⟨row, member, Or.inr ⟨chosen, rfl⟩⟩, rfl, rfl, rfl, id, id⟩
      · intro later member claimed
        obtain ⟨row, old, ⟨selected, rfl⟩ | ⟨_, rfl⟩⟩ := (updated later).mp member
        · obtain ⟨chosen, inRows, same⟩ := List.mem_map.mp selected
          exact Or.inr ⟨_, List.mem_map.mpr ⟨chosen, inRows, rfl⟩, same⟩
        · exact Or.inl ⟨_, old, rfl, claimed⟩
      · intro later member published
        obtain ⟨row, old, ⟨_, rfl⟩ | ⟨_, rfl⟩⟩ := (updated later).mp member
        · exact Or.inl ⟨row, old, rfl, published⟩
        · exact Or.inl ⟨_, old, rfl, published⟩
      · simp only [Call.taken, List.map_map]
        exact apart distinct
      · intro event member
        obtain ⟨row, chosen, rfl⟩ := List.mem_map.mp member
        exact ⟨row, (free row chosen).1, rfl, (free row chosen).2.1⟩
      · intro event member
        obtain ⟨row, chosen, rfl⟩ := List.mem_map.mp member
        refine ⟨_, (updated _).mpr ⟨row, (free row chosen).1,
          Or.inl ⟨List.mem_map_of_mem chosen, rfl⟩⟩, rfl, rfl, by simp, ?_⟩
        intro type count same
        obtain ⟨rfl, _⟩ := Call.claimUnpublished.inj same
        exact (free row chosen).2.2
  | @published id outbox =>
      have updated : ∀ later, later ∈ after.outboxEvents ↔ ∃ row ∈ db.outboxEvents,
          (row.id = id ∧ later = { row with publishedAt := some env.now }) ∨
            (row.id ≠ id ∧ later = row) := by
        intro later
        rw [outbox, mem_updateWhere]
        simp only [decide_eq_true_eq, decide_eq_false_iff_not, ne_eq]
      constructor
      · have ids : after.outboxEvents.map (·.id) = db.outboxEvents.map (·.id) := by
          rw [outbox]
          exact map_key_updateWhere _ _ _ _ fun _ => rfl
        rw [ids]
        exact distinct
      · intro later member type
        obtain ⟨row, old, ⟨_, rfl⟩ | ⟨_, rfl⟩⟩ := (updated later).mp member
        · exact (announced row old type).kept alerts
        · exact (announced _ old type).kept alerts
      · intro row member
        by_cases chosen : row.id = id
        · exact ⟨_, (updated _).mpr ⟨row, member, Or.inl ⟨chosen, rfl⟩⟩, rfl, rfl, rfl,
            fun claimed => claimed, by simp⟩
        · exact ⟨row, (updated _).mpr ⟨row, member, Or.inr ⟨chosen, rfl⟩⟩, rfl, rfl, rfl,
            fun claimed => claimed, fun published => published⟩
      · intro later member claimed
        obtain ⟨row, old, ⟨_, rfl⟩ | ⟨_, rfl⟩⟩ := (updated later).mp member
        · exact Or.inl ⟨row, old, rfl, claimed⟩
        · exact Or.inl ⟨_, old, rfl, claimed⟩
      · intro later member published
        obtain ⟨row, old, ⟨same, rfl⟩ | ⟨_, rfl⟩⟩ := (updated later).mp member
        · exact Or.inr fun _ _ _ => by rw [← same]
        · exact Or.inl ⟨_, old, rfl, published⟩
      · exact List.nodup_nil
      · exact fun event member => absurd member List.not_mem_nil
      · exact fun event member => absurd member List.not_mem_nil

end SafeCameroon
