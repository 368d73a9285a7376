import SafeCameroon.Api.WebhookEffects
import SafeCameroon.Delivery.Pool

namespace SafeCameroon

open Table Process Text

def Db.about (id : DeliveryId) (db : Db) :
    List DeliveryRow × List DeliveryAttemptRow × List DeliveryEventRow :=
  (db.deliveries.filter fun row => row.id = id, attemptsOf id db, eventsOf id db)

def Touched (id : DeliveryId) (db after : Db) : Prop := db.about id ≠ after.about id

theorem untouched_of_same (id : DeliveryId) (db after : Db) (same : db.SameDeliveries after) :
    ¬ Touched id db after := by
  have rows := same.deliveries
  have attempts := same.attempts
  have events := same.events
  simp [Touched, Db.about, attemptsOf, eventsOf, rows, attempts, events]

def SignedFor (registry : WebhookVerifierRegistry) (fresh : Supply) (request : WebhookRequest)
    (channel : ChannelType) (event : WebhookEvent) : Prop :=
  ∃ segment, Webhooks.callback registry fresh { request with channelSegment := segment } =
    some (channel, event)

/-- The database has nothing against the event of a callback: its key is new, and so are the
identifiers drawn for it. -/
structure Applicable (fresh : Supply) (channel : ChannelType) (event : WebhookEvent) (db : Db) :
    Prop where
  first : (channel, event.providerEventId) ∉ db.webhookReplayEvents
  nonblank : ¬ event.providerEventId.toList.all (· = ' ') = true
  status : event.status = .delivered
  drawnEvent : fresh 0 ∉ db.deliveryEvents.map (·.id)
  drawnAudit : fresh 2 ∉ db.auditEvents.map (·.id)
  drawnOutbox : fresh 3 ∉ db.outboxEvents.map (·.id)

def Separate (fresh : Supply) (origin channel : ChannelType) (event : WebhookEvent) (db : Db) : Prop :=
  Applicable fresh channel event db → ∀ tie, ∀ row ∈ db.deliveries,
    PostgresDeliveryRepository.findSentAttempt tie event.providerMessageId db = some row.id →
      row.status = .sent → row.channel = channel ∧ origin = channel

/-- What a callback may do to the deliveries: it changes at most one, of its own channel and sent under
its message id, and none when the provider of another channel signed it. -/
structure Isolated (registry : WebhookVerifierRegistry) (fresh : Supply) (request : WebhookRequest)
    (origin channel : ChannelType) (event : WebhookEvent) (world : World) : Prop where
  own : ∀ pid envs id, Touched id world.db (alone deliveryMachine pid envs
      (Webhooks.receiveWebhook registry fresh request) world).2.db →
    ∃ row ∈ world.db.deliveries, row.id = id ∧ row.channel = channel ∧
      SentAs event.providerMessageId id world.db
  single : ∀ pid envs id other, Touched id world.db (alone deliveryMachine pid envs
      (Webhooks.receiveWebhook registry fresh request) world).2.db →
    Touched other world.db (alone deliveryMachine pid envs
      (Webhooks.receiveWebhook registry fresh request) world).2.db → id = other
  foreign : origin ≠ channel → ∀ pid envs id, ¬ Touched id world.db (alone deliveryMachine pid envs
    (Webhooks.receiveWebhook registry fresh request) world).2.db

section Effect

variable {fresh : Supply} {requestId : Uuid} {channel : ChannelType} {event : WebhookEvent}

theorem touched_of_advanced {now : Timestamp} {delivery : Delivery} {recorded : DeliveryEvent}
    {db after : Db} (advanced : Advanced now delivery recorded none db after) (id : DeliveryId)
    (touched : Touched id db after) : id = delivery.id := by
  by_contra differs
  apply touched
  have events := advanced.eventsOf_other id differs
  have attempts := advanced.attemptsOf_other (by simp) id differs
  have rows : after.deliveries.filter (fun row => row.id = id) =
      db.deliveries.filter fun row => row.id = id := by
    rw [advanced.deliveries]
    apply filter_updateWhere
    · intro row
      rfl
    · intro row _ same
      have other : row.id ≠ delivery.id := by
        rw [of_decide_eq_true same]
        exact differs
      simp [other]
  simp only [Db.about, events, attempts, rows]

theorem advanced_touched {now : Timestamp} {delivery : Delivery} {recorded : DeliveryEvent}
    {db after : Db} (advanced : Advanced now delivery recorded none db after) :
    Touched delivery.id db after := by
  intro same
  obtain ⟨row, subject, _, _, appended⟩ := advanced.events
  have events : eventsOf delivery.id db = eventsOf delivery.id after := congrArg (·.2.2) same
  simp [eventsOf, appended, subject] at events

theorem Delivers.applicable {db after : Db} {tie : Uuid → Nat} {before delivery : Delivery}
    {transition : DeliveryTransition} {now : Timestamp}
    (delivers : Delivers fresh requestId channel event db tie before delivery transition)
    (committed : PostgresDeliveryRepository.applyTransition now delivery transition
      (db.noting channel event.providerEventId) = .ok (.commit .applied after)) :
    Applicable fresh channel event db := by
  have recorded := delivers.recorded
  simp only [recordDeliveryDelivered, Delivery.recordDelivered] at recorded
  split at recorded
  · simp only [bind, Except.bind, pure, Except.pure, Except.ok.injEq, Prod.mk.injEq] at recorded
    obtain ⟨rfl, rfl⟩ := recorded
    simp only [PostgresDeliveryRepository.applyTransition] at committed
    split at committed
    · simp only [bind_ok, pure, Except.pure, Except.ok.injEq] at committed
      obtain ⟨written, recorded, _⟩ := committed
      have free := (recordDeliveryEvent_recordable _ _ _ _ _ _ _ _ _).mp ⟨written, recorded⟩
      constructor
      · exact delivers.first
      · exact delivers.nonblank
      · exact delivers.status
      · exact free.event
      · exact free.audit
      · exact free.outbox
    · simp [pure, Except.pure] at committed
  · simp [bind, Except.bind] at recorded

theorem Delivers.sentRow {db : Db} {tie : Uuid → Nat} {before delivery : Delivery}
    {transition : DeliveryTransition} {transitions : DeliveryId → Nat}
    (ledger : Ledger db transitions)
    (delivers : Delivers fresh requestId channel event db tie before delivery transition) :
    ∃ row ∈ db.deliveries, row.id = delivery.id ∧ row.status = .sent ∧
      PostgresDeliveryRepository.findSentAttempt tie event.providerMessageId db = some row.id := by
  have moves := recordDeliveryDelivered_moves _ _ _ _ _ _ delivers.recorded
  have read := delivers.read
  simp only [PostgresDeliveryRepository.findById] at read
  split at read
  · simp at read
  · rename_i row stored
    obtain ⟨member, same⟩ := lookup_some _ _ _ _ stored
    cases result : deliveryFromRow row with
    | error failure => simp [result, Except.map] at read
    | ok value =>
        obtain rfl : value = before := by simpa [result, Except.map] using read
        obtain ⟨_, life, _⟩ := deliveryFromRow_ok row (ledger.readable row member) value result
        have status : value.status = row.status := congrArg DeliveryLife.State.status life
        have recorded := delivers.recorded
        refine ⟨row, member, ?_, ?_, ?_⟩
        · rw [same, moves.id]
        · rw [← status]
          simp only [recordDeliveryDelivered, Delivery.recordDelivered] at recorded
          split at recorded
          · assumption
          · simp [bind, Except.bind] at recorded
        · rw [same]
          exact delivers.found

theorem applyTransition_commits {db : Db} {transitions : DeliveryId → Nat}
    (requestId : Uuid) (ledger : Ledger db transitions) (applicable : Applicable fresh channel event db)
    (row : DeliveryRow) (member : row ∈ db.deliveries) (before : Delivery)
    (read : deliveryFromRow row = .ok before) (sent : row.status = .sent) (now : Timestamp) :
    ∃ delivery transition after,
      applyWebhookEvent fresh before event .automated requestId =
        .ok (delivery, .delivered transition) ∧
      PostgresDeliveryRepository.applyTransition now delivery transition
        (db.noting channel event.providerEventId) = .ok (.commit .applied after) ∧
      Touched row.id db after := by
  obtain ⟨same, life, version⟩ := deliveryFromRow_ok row (ledger.readable row member) before read
  have status : before.status = .sent := by
    rw [← sent]
    exact congrArg DeliveryLife.State.status life
  obtain ⟨delivery, transition, recorded⟩ : ∃ delivery transition,
      recordDeliveryDelivered fresh before .automated requestId = .ok (delivery, transition) := by
    simp [recordDeliveryDelivered, Delivery.recordDelivered, status, bind, Except.bind, pure,
      Except.pure]
  have moves := recordDeliveryDelivered_moves _ _ _ _ _ _ recorded
  have subject : row.id = delivery.id := same.id.trans moves.id.symm
  have noted := Db.noting_same db channel event.providerEventId
  have known := Ledger.congr noted ledger
  have next : row.aggregateVersion + 1 = delivery.version := by rw [moves.version, version]
  have advanced := advanceDelivery_true now delivery (db.noting channel event.providerEventId)
    known.distinct row member subject next
  have free : Recordable delivery.id transition.event.aggregateVersion transition.event.id
      transition.auditEventId transition.outboxEventId
      (advanceDelivery now delivery (db.noting channel event.providerEventId)).2 := by
    have unnumbered := ledger.unnumbered row member delivery.version (by omega)
    rw [subject] at unnumbered
    simp only [recordDeliveryDelivered, Delivery.recordDelivered, status, if_true, bind, Except.bind,
      pure, Except.pure, Except.ok.injEq, Prod.mk.injEq] at recorded
    obtain ⟨rfl, rfl⟩ := recorded
    constructor
    · exact unnumbered
    · exact applicable.drawnEvent
    · exact applicable.drawnAudit
    · exact applicable.drawnOutbox
  obtain ⟨after, written⟩ := (recordDeliveryEvent_recordable now delivery transition.event
    transition.actor transition.auditEventId transition.outboxEventId transition.requestId
    (deliveryTransitionEventPayload delivery transition) _).mpr free
  have committed : PostgresDeliveryRepository.applyTransition now delivery transition
      (db.noting channel event.providerEventId) = .ok (.commit .applied after) := by
    simp only [PostgresDeliveryRepository.applyTransition, advanced, if_true, written, bind,
      Except.bind, pure, Except.pure]
  refine ⟨delivery, transition, after, ?_, committed, ?_⟩
  · simp only [applyWebhookEvent, applicable.status, recorded, bind, Except.bind, pure, Except.pure]
  · rcases PostgresDeliveryRepository.applyTransition_effect _ _ _ _ _ committed with
      ⟨rolled, _⟩ | ⟨_, commit, effect⟩
    · simp at rolled
    · obtain ⟨_, rfl⟩ := Ending.commit.inj commit
      have touched := advanced_touched effect
      rw [subject]
      exact touched

theorem applyVerified_touches (requestId : Uuid) (pid : Nat) (world : World)
    (transitions : DeliveryId → Nat) (ledger : Ledger world.db transitions)
    (applicable : Applicable fresh channel event world.db)
    (tie : Uuid → Nat) (row : DeliveryRow) (member : row ∈ world.db.deliveries)
    (found : PostgresDeliveryRepository.findSentAttempt tie event.providerMessageId world.db =
      some row.id) (sent : row.status = .sent) :
    ∃ envs, Touched row.id world.db (alone deliveryMachine pid envs
      (Webhooks.applyVerified fresh requestId channel event) world).2.db := by
  let env : Env := { now := world.clock, fault := false, tie, fieldTie := fun _ => 0, locked := []
                     fresh, reply := .ok { providerMessageId := none } }
  obtain ⟨before, read, _⟩ := deliveryFromRow_readable row (ledger.readable row member)
  obtain ⟨delivery, transition, after, applied, committed, touched⟩ :=
    applyTransition_commits requestId ledger applicable row member before read sent world.clock
  refine ⟨[env, env, env, env], ?_⟩
  simp only [Webhooks.applyVerified, Webhooks.findByProviderMessageId, Webhooks.persist,
    Proc.bind_def]
  have isNew := recordIfNew_first channel env event.providerEventId world.db rfl
    applicable.nonblank applicable.first
  have answered : (World.execute pid (.recordIfNew channel event.providerEventId) env world).1 =
      .ok true := congrArg Prod.fst isNew
  have noted : (World.execute pid (.recordIfNew channel event.providerEventId) env world).2.db =
      world.db.noting channel event.providerEventId := congrArg Prod.snd isNew
  rw [alone_perform_cons, answered]
  generalize (World.execute pid (.recordIfNew channel event.providerEventId) env world).2 =
    recorded at noted ⊢
  simp only [if_true, Proc.bind_assoc]
  have lookedUp : (World.execute pid (.findSentAttempt event.providerMessageId) env recorded).1 =
      .ok (some row.id) := by
    rw [← found, World.execute_answer, runCall, noted]
    rfl
  rw [alone_perform_cons, lookedUp]
  have sought : (World.execute pid (.findSentAttempt event.providerMessageId) env recorded).2.db =
      world.db.noting channel event.providerEventId := noted
  generalize (World.execute pid (.findSentAttempt event.providerMessageId) env recorded).2 =
    searched at sought ⊢
  have stored := lookup_mem (·.id) world.db.deliveries ledger.distinct row member
  have reread : (World.execute pid (.findDelivery row.id) env searched).1 = .ok (some before) := by
    rw [World.execute_answer, runCall, sought]
    simp only [query, PostgresDeliveryRepository.findById, Db.noting, stored, read]
    rfl
  simp only []
  rw [alone_perform_cons, reread]
  have known : (World.execute pid (.findDelivery row.id) env searched).2.db =
      world.db.noting channel event.providerEventId := sought
  generalize (World.execute pid (.findDelivery row.id) env searched).2 = told at known ⊢
  have ended : runCall env (.applyTransition delivery transition) told.db = (.ok .applied, after) := by
    rw [runCall, known]
    have result : PostgresDeliveryRepository.applyTransition env.now delivery transition
        (world.db.noting channel event.providerEventId) = .ok (.commit .applied after) := committed
    simp only [transaction, result]
    rfl
  have written : (World.execute pid (.applyTransition delivery transition) env told).1 =
      .ok .applied := congrArg Prod.fst ended
  have final : (World.execute pid (.applyTransition delivery transition) env told).2.db = after :=
    congrArg Prod.snd ended
  simp only [applied]
  rw [alone_perform_cons, written]
  simp only [Proc.pure_def, alone_done, final]
  exact touched

theorem isolated_iff_separate (registry : WebhookVerifierRegistry) (request : WebhookRequest)
    (origin : ChannelType) (world : World) (transitions : DeliveryId → Nat)
    (ledger : Ledger world.db transitions)
    (verified : Webhooks.callback registry fresh request = some (channel, event)) :
    Isolated registry fresh request origin channel event world ↔
      Separate fresh origin channel event world.db := by
  have runs := receiveWebhook_verified registry fresh request channel event verified
  constructor
  · intro isolated applicable tie row member found sent
    obtain ⟨envs, touched⟩ := applyVerified_touches
      (requestIdFromHeaders (fresh 4) request.headers) 0 world transitions ledger applicable tie row
      member found sent
    rw [← runs] at touched
    constructor
    · obtain ⟨other, inTable, same, ofChannel, _⟩ := isolated.own 0 envs row.id touched
      rw [← eq_of_key (·.id) _ ledger.distinct other row inTable member same]
      exact ofChannel
    · by_contra differs
      exact isolated.foreign differs 0 envs row.id touched
  · intro separate
    have confined : ∀ pid envs, ∃ moved, ∀ id, Touched id world.db (alone deliveryMachine pid envs
        (Webhooks.receiveWebhook registry fresh request) world).2.db → id = moved ∧
          origin = channel ∧ ∃ row ∈ world.db.deliveries, row.id = id ∧ row.channel = channel ∧
            SentAs event.providerMessageId id world.db := by
      intro pid envs
      rw [runs]
      have outcome := ensures_alone _ pid _ _ _ (applyVerified_outcome fresh
        (requestIdFromHeaders (fresh 4) request.headers) channel event pid world transitions ledger) envs
      rcases outcome with same | ⟨tie, before, delivery, transition, now, delivers, committed⟩
      · exact ⟨⟨0⟩, fun id touched => absurd touched (untouched_of_same id _ _ same)⟩
      · obtain ⟨row, member, subject, sent, found⟩ := delivers.sentRow ledger
        have own := separate (delivers.applicable committed) tie row member found sent
        refine ⟨delivery.id, fun id touched => ?_⟩
        have noted := Db.noting_same world.db channel event.providerEventId
        have fromNoted : Touched id (world.db.noting channel event.providerEventId) _ := touched
        rcases PostgresDeliveryRepository.applyTransition_effect _ _ _ _ _ committed with
          ⟨rolled, _⟩ | ⟨_, commit, effect⟩
        · simp at rolled
        · obtain ⟨_, rfl⟩ := Ending.commit.inj commit
          have same := touched_of_advanced effect id fromNoted
          refine ⟨same, own.2, row, member, subject.trans same.symm, own.1, ?_⟩
          rw [same, ← subject]
          exact findSentAttempt_sentAs tie _ _ _ found
    constructor
    · intro pid envs id touched
      obtain ⟨_, about⟩ := confined pid envs
      exact (about id touched).2.2
    · intro pid envs id other first second
      obtain ⟨_, about⟩ := confined pid envs
      exact (about id first).1.trans (about other second).1.symm
    · intro differs pid envs id touched
      obtain ⟨_, about⟩ := confined pid envs
      exact differs (about id touched).2.1

end Effect

/-- In every reachable state a callback is confined to its channel exactly when every `SENT` delivery
that its message id can lead to is one of the channel, and its own provider sent it. -/
theorem callbacks_isolated_iff (deployment : Deployment) (jobs : Nat → Job) (init : Db)
    (initial : init.Initial) (config : Pool)
    (reached : deployment.Reaches jobs clockRules init config) (fresh : Supply)
    (request : WebhookRequest) (origin channel : ChannelType) (event : WebhookEvent)
    (verified : Webhooks.callback deployment.registry fresh request = some (channel, event)) :
    Isolated deployment.registry fresh request origin channel event config.state ↔
      Separate fresh origin channel event config.state.db := by
  have ledger := (pool_exclusive deployment jobs (clockRules_watched jobs) init initial config
    reached).agrees.ledger
  exact isolated_iff_separate deployment.registry request origin config.state _ ledger verified

section Run

open Scenario

def deliveredEvent : WebhookEvent :=
  { providerEventId := "evt-1", providerMessageId := "wa-1", status := .delivered }

theorem deliveredEvent_verified : Webhooks.callback deployment.registry (Supply.of 9)
    (posted "whatsapp" deliveredSignature deliveredBody) = some (.whatsApp, deliveredEvent) := by
  decide +kernel

theorem callback_expected : ∃ config : Pool, deployment.Reaches jobs clockRules store config ∧
    (∀ row ∈ config.state.db.deliveries, row.status = .sent → row.channel = .whatsApp) ∧
    (∃ row ∈ config.state.db.deliveries, row.status = .sent ∧
      PostgresDeliveryRepository.findSentAttempt (fun _ => 0) "wa-1" config.state.db = some row.id) ∧
    ∀ channel, Applicable (Supply.of 9) channel deliveredEvent config.state.db := by
  obtain ⟨config, reached, holds, _⟩ := play_reaches (deployment.pool jobs)
    (initially (World.initial store) : Pool) timely timely_sound
    (runs 0 1 1 ++ runs 1 7 10 ++ runs 2 6 20)
    (fun config => decide (config.state.db.webhookReplayEvents = []) &&
      decide (Supply.of 9 0 ∉ config.state.db.deliveryEvents.map (·.id)) &&
      decide (Supply.of 9 2 ∉ config.state.db.auditEvents.map (·.id)) &&
      decide (Supply.of 9 3 ∉ config.state.db.outboxEvents.map (·.id)) &&
      (config.state.db.deliveries.all fun row =>
        decide (row.status = .sent → row.channel = .whatsApp)) &&
      config.state.db.deliveries.any fun row => decide (row.status = .sent) &&
        decide (PostgresDeliveryRepository.findSentAttempt (fun _ => 0) "wa-1" config.state.db =
          some row.id))
    (by decide +kernel)
  simp only [Bool.and_eq_true, List.any_eq_true, List.all_eq_true, decide_eq_true_eq] at holds
  obtain ⟨⟨⟨⟨⟨unseen, drawnEvent⟩, drawnAudit⟩, drawnOutbox⟩, whatsApp⟩, row, member, sent⟩ := holds
  refine ⟨config, reached, whatsApp, ⟨row, member, sent⟩, fun channel => ?_⟩
  constructor
  · rw [unseen]
    exact List.not_mem_nil
  · decide
  · rfl
  · exact drawnEvent
  · exact drawnAudit
  · exact drawnOutbox

/-- On its own path the callback is confined. -/
theorem callbacks_isolated_iff_own : ∃ config : Pool, Isolated deployment.registry (Supply.of 9)
    (posted "whatsapp" deliveredSignature deliveredBody) .whatsApp .whatsApp deliveredEvent
    config.state := by
  obtain ⟨config, reached, whatsApp, _⟩ := callback_expected
  refine ⟨config, (callbacks_isolated_iff deployment jobs store store_initial config reached
    (Supply.of 9) (posted "whatsapp" deliveredSignature deliveredBody) .whatsApp .whatsApp deliveredEvent
    deliveredEvent_verified).mpr ?_⟩
  exact fun _ _ row member _ sent => ⟨whatsApp row member sent, rfl⟩

/-- Posted again on the path of SMS, the callback of the WhatsApp provider verifies and moves the
WhatsApp delivery. -/
theorem callback_crosses_channels : ∃ config : Pool,
    deployment.Reaches jobs clockRules store config ∧
      SignedFor deployment.registry (Supply.of 9) (posted "sms" deliveredSignature deliveredBody)
        .whatsApp deliveredEvent ∧
      Webhooks.callback deployment.registry (Supply.of 9)
        (posted "sms" deliveredSignature deliveredBody) = some (.sms, deliveredEvent) ∧
      (∃ envs, ∃ row ∈ config.state.db.deliveries, row.channel = .whatsApp ∧
        Touched row.id config.state.db (alone deliveryMachine 9 envs (Webhooks.receiveWebhook
          deployment.registry (Supply.of 9) (posted "sms" deliveredSignature deliveredBody))
            config.state).2.db) ∧
      ¬ Isolated deployment.registry (Supply.of 9) (posted "sms" deliveredSignature deliveredBody)
        .whatsApp .sms deliveredEvent config.state := by
  obtain ⟨config, reached, whatsApp, ⟨row, member, sent, found⟩, applicable⟩ := callback_expected
  have ledger := (pool_exclusive deployment jobs (clockRules_watched jobs) store store_initial config
    reached).agrees.ledger
  have verified : Webhooks.callback deployment.registry (Supply.of 9)
      (posted "sms" deliveredSignature deliveredBody) = some (.sms, deliveredEvent) := by
    decide +kernel
  obtain ⟨envs, touched⟩ := applyVerified_touches (requestIdFromHeaders ((Supply.of 9) 4)
    (posted "sms" deliveredSignature deliveredBody).headers) 9 config.state _ ledger
    (applicable .sms) (fun _ => 0) row member found sent
  rw [← receiveWebhook_verified deployment.registry (Supply.of 9) _ .sms deliveredEvent verified]
    at touched
  refine ⟨config, reached, ⟨"whatsapp", deliveredEvent_verified⟩, verified,
    ⟨envs, row, member, whatsApp row member sent, touched⟩, ?_⟩
  intro isolated
  exact isolated.foreign (by decide) 9 envs row.id touched

end Run

end SafeCameroon
