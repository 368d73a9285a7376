import SafeCameroon.Api.WebhookSafety

namespace SafeCameroon

open Table Process

/-- What a handler did that changed a delivery: it was the first with its key, its message was found in
a `SENT` delivery, and that delivery was moved on to `DELIVERED`. -/
structure Delivers (fresh : Supply) (requestId : Uuid) (channel : ChannelType) (event : WebhookEvent)
    (db : Db) (tie : Uuid → Nat) (before delivery : Delivery) (transition : DeliveryTransition) :
    Prop where
  first : (channel, event.providerEventId) ∉ db.webhookReplayEvents
  nonblank : ¬ event.providerEventId.toList.all (· = ' ') = true
  status : event.status = .delivered
  found : PostgresDeliveryRepository.findSentAttempt tie event.providerMessageId db = some before.id
  read : PostgresDeliveryRepository.findById before.id db = .ok (some before)
  recorded : recordDeliveryDelivered fresh before .automated requestId = .ok (delivery, transition)

/-- The replay key of a callback on record. -/
def Db.noting (db : Db) (channel : ChannelType) (providerEventId : String) : Db :=
  { db with webhookReplayEvents := db.webhookReplayEvents ++ [(channel, providerEventId)] }

theorem Db.noting_same (db : Db) (channel : ChannelType) (providerEventId : String) :
    db.SameDeliveries (db.noting channel providerEventId) := ⟨rfl, rfl, rfl⟩

section Alone

variable (fresh : Supply) (requestId : Uuid) (channel : ChannelType) (event : WebhookEvent)

theorem recordIfNew_sameDeliveries (env : Env) (db : Db) :
    db.SameDeliveries (runCall env (.recordIfNew channel event.providerEventId) db).2 := by
  apply transaction_sameDeliveries
  intro value after h
  simp only [PostgresWebhookReplayGuard.recordIfNew] at h
  split at h
  · simp at h
  · split at h
    · simp only [Except.ok.injEq, Ending.commit.injEq] at h
      obtain ⟨_, rfl⟩ := h
      exact .refl db
    · simp only [Except.ok.injEq, Ending.commit.injEq] at h
      obtain ⟨_, rfl⟩ := h
      exact ⟨rfl, rfl, rfl⟩

theorem recordIfNew_true (env : Env) (providerEventId : String) (db : Db)
    (h : (runCall env (.recordIfNew channel providerEventId) db).1 = .ok true) :
    (channel, providerEventId) ∉ db.webhookReplayEvents ∧
      ¬ providerEventId.toList.all (· = ' ') = true ∧
      (runCall env (.recordIfNew channel providerEventId) db).2 =
        db.noting channel providerEventId := by
  rcases transaction_ok _ _ _ _ _ h with ⟨result, _⟩ | ⟨after, result, stored⟩
  · simp only [PostgresWebhookReplayGuard.recordIfNew] at result
    split at result
    · simp at result
    · split at result <;> simp at result
  · simp only [PostgresWebhookReplayGuard.recordIfNew] at result
    split at result
    · simp at result
    · rename_i nonblank
      split at result
      · simp at result
      · rename_i unseen
        simp only [Except.ok.injEq, Ending.commit.injEq, true_and] at result
        refine ⟨unseen, nonblank, ?_⟩
        rw [runCall, stored, ← result, Db.noting]

theorem applyTransition_cases (env : Env) (delivery : Delivery) (transition : DeliveryTransition)
    (db : Db) : (runCall env (.applyTransition delivery transition) db).2 = db ∨
      PostgresDeliveryRepository.applyTransition env.now delivery transition db =
        .ok (.commit .applied (runCall env (.applyTransition delivery transition) db).2) := by
  rcases transaction_cases env.fault Failure.database
      (PostgresDeliveryRepository.applyTransition env.now delivery transition) db with
    ⟨_, _, ended⟩ | ⟨_, _, ended⟩ | ⟨_, after, result, ended⟩
  · rw [runCall, ended]
    exact Or.inl rfl
  · rw [runCall, ended]
    exact Or.inl rfl
  · rw [runCall, ended]
    rcases PostgresDeliveryRepository.applyTransition_effect _ _ _ _ _ result with
      ⟨rolled, _⟩ | ⟨_, commit, _⟩
    · simp at rolled
    · rw [commit] at result
      obtain ⟨_, rfl⟩ := Ending.commit.inj commit
      exact Or.inr result

/-- The delivery tables are as they were, or the delivery of the message moved on to `DELIVERED`. -/
def Outcome (db after : Db) : Prop :=
  db.SameDeliveries after ∨ ∃ tie before delivery transition now,
    Delivers fresh requestId channel event db tie before delivery transition ∧
      PostgresDeliveryRepository.applyTransition now delivery transition
        (db.noting channel event.providerEventId) = .ok (.commit .applied after)

theorem applyVerified_outcome (pid : Nat) (world : World) (transitions : DeliveryId → Nat)
    (ledger : Ledger world.db transitions) :
    (Webhooks.applyVerified fresh requestId channel event).Ensures deliveryMachine pid
      (fun _ after => Outcome fresh requestId channel event world.db after.db) world := by
  simp only [Webhooks.applyVerified, Webhooks.findByProviderMessageId, Webhooks.persist,
    Proc.bind_def]
  have unchanged : Outcome fresh requestId channel event world.db world.db := Or.inl (.refl _)
  refine ensures_perform _ pid _ _ _ _ _ unchanged ?_ fun env _ _ =>
    Or.inl (recordIfNew_sameDeliveries channel event env world.db)
  intro (env : Env) isNew answer
  have same : world.db.SameDeliveries
      (World.execute pid (.recordIfNew channel event.providerEventId) env world).2.db :=
    recordIfNew_sameDeliveries channel event env world.db
  cases isNew with
  | false => exact Or.inl same
  | true =>
      obtain ⟨first, nonblank, noted⟩ :=
        recordIfNew_true channel env event.providerEventId world.db answer
      have noting : (World.execute pid (.recordIfNew channel event.providerEventId) env world).2.db =
          world.db.noting channel event.providerEventId := noted
      generalize (World.execute pid (.recordIfNew channel event.providerEventId) env world).2 =
        recorded at same noting ⊢
      simp only [if_true, Proc.bind_assoc]
      refine ensures_perform _ pid _ _ _ _ _ (Or.inl same) ?_ fun _ _ _ => Or.inl same
      intro (env₁ : Env) found answer
      have lookedUp : PostgresDeliveryRepository.findSentAttempt env₁.tie event.providerMessageId
          recorded.db = found := Except.ok.inj (query_ok _ _ _ _ _ answer)
      cases found with
      | none => exact Or.inl same
      | some id =>
          simp only []
          refine ensures_perform _ pid _ _ _ _ _ (Or.inl same) ?_ fun _ _ _ => Or.inl same
          intro (env : Env) found answer
          have read : PostgresDeliveryRepository.findById id recorded.db = .ok found :=
            query_ok _ _ _ _ _ answer
          cases found with
          | none => exact Or.inl same
          | some before =>
              have sentAs := findSentAttempt_sentAs _ _ recorded.db id lookedUp
              obtain ⟨stale, subject, taken⟩ := findById_taken recorded.db transitions
                (Ledger.congr same ledger) event.providerMessageId id sentAs before read
              simp only []
              cases applied : applyWebhookEvent fresh before event .automated requestId with
              | error error => exact Or.inl same
              | ok pair =>
                  obtain ⟨delivery, kind⟩ := pair
                  obtain ⟨status, transition, rfl, moved⟩ :=
                    applyWebhookEvent_taken fresh before delivery event .automated requestId kind taken
                      applied
                  have attempts := same.attempts
                  have rows := same.deliveries
                  have delivers : Delivers fresh requestId channel event world.db env₁.tie before
                      delivery transition := by
                    constructor
                    · exact first
                    · exact nonblank
                    · exact status
                    · rw [subject, ← lookedUp]
                      simp only [PostgresDeliveryRepository.findSentAttempt, attempts]
                    · rw [subject, ← read]
                      simp only [PostgresDeliveryRepository.findById, rows]
                    · exact moved
                  have written : ∀ later : Env, Outcome fresh requestId channel event world.db
                      (runCall later (.applyTransition delivery transition) recorded.db).2 := by
                    intro later
                    rcases applyTransition_cases later delivery transition recorded.db with
                      unchanged | committed
                    · rw [unchanged]
                      exact Or.inl same
                    · refine Or.inr ⟨env₁.tie, before, delivery, transition, later.now, delivers, ?_⟩
                      rw [← noting]
                      exact committed
                  exact ensures_perform _ pid _ _ _ _ _ (Or.inl same) (fun later _ _ => written later)
                    fun later _ _ => written later

theorem recordIfNew_first (env : Env) (providerEventId : String) (db : Db) (works : env.fault = false)
    (nonblank : ¬ providerEventId.toList.all (· = ' ') = true)
    (unseen : (channel, providerEventId) ∉ db.webhookReplayEvents) :
    runCall env (.recordIfNew channel providerEventId) db =
      (.ok true, db.noting channel providerEventId) := by
  simp [runCall, transaction, works, PostgresWebhookReplayGuard.recordIfNew, nonblank, unseen,
    Db.noting]

theorem findById_ok (id : DeliveryId) (db : Db) (readable : ∀ row ∈ db.deliveries, Readable row) :
    ∃ found, PostgresDeliveryRepository.findById id db = .ok found := by
  simp only [PostgresDeliveryRepository.findById]
  cases stored : lookup (·.id) id db.deliveries with
  | none => exact ⟨none, rfl⟩
  | some row =>
      have member := (lookup_some _ _ _ _ stored).1
      obtain ⟨delivery, read, _⟩ := deliveryFromRow_readable row (readable row member)
      exact ⟨some delivery, by simp [read, Except.map]⟩

theorem applyVerified_failed_answers (pid : Nat) (first second third : Env) (world : World)
    (works : first.fault = false ∧ second.fault = false ∧ third.fault = false)
    (transitions : DeliveryId → Nat) (ledger : Ledger world.db transitions)
    (nonblank : ¬ event.providerEventId.toList.all (· = ' ') = true)
    (unseen : (channel, event.providerEventId) ∉ world.db.webhookReplayEvents)
    (failed : ∃ retryable reason, event.status = .failed retryable reason) :
    (alone deliveryMachine pid [first, second, third]
      (Webhooks.applyVerified fresh requestId channel event) world).1 = some (.ok 200) := by
  simp only [Webhooks.applyVerified, Webhooks.findByProviderMessageId, Webhooks.persist,
    Proc.bind_def]
  have isNew : (World.execute pid (.recordIfNew channel event.providerEventId) first world).1 =
      .ok true := by
    rw [World.execute_answer, recordIfNew_first channel first _ world.db works.1 nonblank unseen]
  have same : world.db.SameDeliveries
      (World.execute pid (.recordIfNew channel event.providerEventId) first world).2.db :=
    recordIfNew_sameDeliveries channel event first world.db
  rw [alone_perform_cons, isNew]
  generalize (World.execute pid (.recordIfNew channel event.providerEventId) first world).2 =
    recorded at same ⊢
  simp only [if_true, Proc.bind_assoc]
  have lookedUp : (World.execute pid (.findSentAttempt event.providerMessageId) second recorded).1 =
      .ok (PostgresDeliveryRepository.findSentAttempt second.tie event.providerMessageId
        recorded.db) := by
    simp [World.execute_answer, runCall, query, works.2.1]
  rw [alone_perform_cons, lookedUp]
  cases sought : PostgresDeliveryRepository.findSentAttempt second.tie event.providerMessageId
      recorded.db with
  | none => rfl
  | some id =>
      have afterwards := Ledger.congr same ledger
      obtain ⟨found, read⟩ := findById_ok id recorded.db afterwards.readable
      have reread : (World.execute pid (.findDelivery id) third (World.execute pid
          (.findSentAttempt event.providerMessageId) second recorded).2).1 = .ok found := by
        simp [runCall, query, works.2.2, read]
      simp only []
      rw [alone_perform_cons, reread]
      cases found with
      | none => rfl
      | some before =>
          have sentAs := findSentAttempt_sentAs _ _ recorded.db id sought
          have taken := (findById_taken recorded.db transitions afterwards event.providerMessageId id
            sentAs before read).2.2
          simp only []
          cases applied : applyWebhookEvent fresh before event .automated requestId with
          | error error => rfl
          | ok pair =>
              obtain ⟨delivery, kind⟩ := pair
              have delivered := (applyWebhookEvent_taken fresh before delivery event .automated
                requestId kind taken applied).1
              obtain ⟨retryable, reason, status⟩ := failed
              rw [status] at delivered
              simp at delivered

end Alone

theorem receiveWebhook_verified (registry : WebhookVerifierRegistry) (fresh : Supply)
    (request : WebhookRequest) (channel : ChannelType) (event : WebhookEvent)
    (verified : Webhooks.callback registry fresh request = some (channel, event)) :
    Webhooks.receiveWebhook registry fresh request =
      Webhooks.applyVerified fresh (requestIdFromHeaders (fresh 4) request.headers) channel event := by
  simp only [Webhooks.callback] at verified
  cases checked : Webhooks.authenticate registry request
      (requestIdFromHeaders (fresh 4) request.headers) with
  | error error => simp [checked, Except.toOption] at verified
  | ok pair =>
      obtain rfl : pair = (channel, event) := by simpa [checked, Except.toOption] using verified
      simp only [Webhooks.receiveWebhook, checked]

end SafeCameroon
