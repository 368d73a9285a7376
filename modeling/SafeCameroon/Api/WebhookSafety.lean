import SafeCameroon.Delivery.Sending

namespace SafeCameroon

open Table Process Ownership

def SentAs (messageId : String) (id : DeliveryId) (db : Db) : Prop :=
  ∃ attempt ∈ db.deliveryAttempts, attempt.deliveryId = id ∧ attempt.outcome = .sent ∧
    attempt.providerMessageId = some messageId

theorem findSentAttempt_sentAs (tie : Uuid → Nat) (messageId : String) (db : Db) (id : DeliveryId)
    (found : PostgresDeliveryRepository.findSentAttempt tie messageId db = some id) :
    SentAs messageId id db := by
  simp only [PostgresDeliveryRepository.findSentAttempt, Option.map_eq_some_iff] at found
  obtain ⟨row, last, rfl⟩ := found
  have member := List.mem_of_getLast? last
  rw [mem_orderBy, List.mem_filter, decide_eq_true_eq] at member
  exact ⟨row, member.1, rfl, member.2.2, member.2.1⟩

/-- What a callback can still change: a delivery that the provider has taken. -/
def Taken (delivery : Delivery) : Prop := delivery.status = .sent ∨ delivery.status = .delivered

theorem findById_taken (db : Db) (transitions : DeliveryId → Nat) (ledger : Ledger db transitions)
    (messageId : String) (id : DeliveryId) (sentAs : SentAs messageId id db) (delivery : Delivery)
    (found : PostgresDeliveryRepository.findById id db = .ok (some delivery)) :
    Stale db delivery ∧ delivery.id = id ∧ Taken delivery := by
  simp only [PostgresDeliveryRepository.findById] at found
  split at found
  · simp at found
  · rename_i row stored
    obtain ⟨member, same⟩ := lookup_some _ _ _ _ stored
    cases read : deliveryFromRow row with
    | error failure => simp [read, Except.map] at found
    | ok value =>
        obtain rfl : value = delivery := by simpa [read, Except.map] using found
        obtain ⟨fixed, life, _⟩ := deliveryFromRow_ok row (ledger.readable row member) value read
        have status : value.status = row.status := congrArg DeliveryLife.State.status life
        refine ⟨stale_read db row member (ledger.readable row member) value read,
          fixed.id.symm.trans same, ?_⟩
        obtain ⟨attempt, recorded, subject, sent, _⟩ := sentAs
        rw [Taken, status]
        exact ledger.sent row member attempt recorded (subject.trans same.symm) sent

theorem applyWebhookEvent_taken (fresh : Supply) (delivery after : Delivery) (event : WebhookEvent)
    (actor : Actor) (requestId : Uuid) (applied : WebhookAppliedTransition)
    (taken : Taken delivery)
    (h : applyWebhookEvent fresh delivery event actor requestId = .ok (after, applied)) :
    event.status = .delivered ∧ ∃ transition, applied = .delivered transition ∧
      recordDeliveryDelivered fresh delivery actor requestId = .ok (after, transition) := by
  cases status : event.status with
  | delivered =>
      simp only [applyWebhookEvent, status, bind_ok, pure, Except.pure, Except.ok.injEq,
        Prod.mk.injEq] at h
      obtain ⟨⟨other, transition⟩, recorded, rfl, rfl⟩ := h
      exact ⟨rfl, transition, rfl, recorded⟩
  | failed retryable reason =>
      simp only [applyWebhookEvent, status, bind_ok] at h
      obtain ⟨result, recorded, _⟩ := h
      rcases taken with sent | delivered
      · simp [recordDeliveryFailure, Delivery.recordFailure, sent, bind, Except.bind] at recorded
      · simp [recordDeliveryFailure, Delivery.recordFailure, delivered, bind, Except.bind] at recorded

section Webhooks

variable {rules : Rules deliveryMachine} {setup : WorkerSetup} {jobs : Nat → Job} {tidy : Prop}
  (watched : Watched rules jobs tidy) {pid : Nat}
include watched

theorem safe_persist {β : Type} (requestId : Uuid) (call : Call) (quiet : call.isQuiet)
    (fact : World → Prop) (learns : call.Res → World → Prop)
    (proper : ∀ world : World, fact world → Exclusive setup jobs world →
      Proper setup (jobs pid) pid world.db world.history call)
    (stable : ∀ value, Stable (sendingDiscipline rules setup jobs tidy) pid ∅ (learns value))
    (learned : ∀ env world value, Exclusive setup jobs world → fact world →
      (runCall env call world.db).1 = .ok value → learns value (world.execute pid call env).2) :
    Safe (sendingDiscipline rules setup jobs tidy) pid
      (Continue (fun _ => ∅) learns (Outside (ε := HandlerError) (α := β)))
      (Webhooks.persist requestId call) ∅ fact :=
  safe_outside watched call quiet _ fact learns proper stable learned

theorem safe_findByProviderMessageId {β : Type} (requestId : Uuid) (messageId : String) :
    Safe (sendingDiscipline rules setup jobs tidy) pid
      (Continue (fun _ => ∅) (fun found world => ∀ delivery, found = some delivery →
        Stale world.db delivery ∧ Taken delivery) (Outside (ε := HandlerError) (α := β)))
      (Webhooks.findByProviderMessageId requestId messageId) ∅ fun _ => True := by
  refine safe_then _ pid _ _ _ _ _ (fun _ => ∅) (fun found world => ∀ id, found = some id →
    SentAs messageId id world.db) ?_ fun found => ?_
  · refine safe_persist (β := β) watched requestId (.findSentAttempt messageId) trivial _ _
      (fun _ _ _ => trivial) ?_ ?_
    · intro found mover s t _ known _ _ grows _ id same
      obtain ⟨attempt, recorded, rest⟩ := known id same
      exact ⟨attempt, Grows.attempts grows attempt recorded, rest⟩
    · rintro env world found exclusive _ answer id rfl
      exact findSentAttempt_sentAs env.tie messageId world.db id
        (Except.ok.inj (query_ok _ _ _ _ _ answer))
  · cases found with
    | none => exact fun world _ _ => ⟨rfl, by simp⟩
    | some id =>
        refine safe_persist (β := β) watched requestId (.findDelivery id) trivial _ _
          (fun _ _ _ => trivial) ?_ ?_
        · intro found mover s t _ known _ _ grows _ delivery same
          obtain ⟨stale, taken⟩ := known delivery same
          exact ⟨Grows.stale grows delivery stale, taken⟩
        · rintro env world found exclusive known answer delivery rfl
          obtain ⟨stale, _, taken⟩ := findById_taken world.db _ exclusive.agrees.ledger messageId id
            (known id rfl) delivery (query_ok _ _ _ _ _ answer)
          exact ⟨stale, taken⟩

theorem safe_applyVerified (fresh : Supply) (requestId : Uuid) (channel : ChannelType)
    (event : WebhookEvent) :
    Safe (sendingDiscipline rules setup jobs tidy) pid Outside
      (Webhooks.applyVerified fresh requestId channel event) ∅ fun _ => True := by
  refine safe_then _ pid _ _ _ _ _ (fun _ => ∅) (fun _ _ => True)
    (safe_persist watched requestId (.recordIfNew channel event.providerEventId) trivial _ _
      (fun _ _ _ => trivial) (fun _ => stable_true _ pid _) fun _ _ _ _ _ _ => trivial)
    fun isNew => ?_
  cases isNew with
  | false => exact fun world _ _ => rfl
  | true =>
      refine safe_then _ pid _ _ _ _ _ _ _
        (safe_findByProviderMessageId watched requestId event.providerMessageId) fun found => ?_
      cases found with
      | none => exact fun world _ _ => rfl
      | some delivery =>
          cases result : applyWebhookEvent fresh delivery event .automated requestId with
          | error error =>
              simp only [result]
              exact fun world _ _ => rfl
          | ok pair =>
              obtain ⟨after, applied⟩ := pair
              by_cases taken : Taken delivery
              · obtain ⟨_, transition, rfl, recorded⟩ := applyWebhookEvent_taken fresh delivery after
                  event .automated requestId applied taken result
                simp only [result]
                refine safe_then _ pid _ _ _ _ _ (fun _ => ∅) (fun _ _ => True) ?_
                  fun _ world _ _ => rfl
                refine safe_persist watched requestId (.applyTransition after transition) trivial _ _
                  ?_ (fun _ => stable_true _ pid _) fun _ _ _ _ _ _ => trivial
                exact fun world known _ => ⟨fresh, delivery, .automated, requestId,
                  (known delivery rfl).1, recorded⟩
              · exact safe_vacuous _ pid _ _ _ _ fun world _ known => taken (known delivery rfl).2

theorem safe_serve (registry : WebhookVerifierRegistry) (fresh : Supply) (request : WebhookRequest) :
    Safe (sendingDiscipline rules setup jobs tidy) pid Outside
      (Webhooks.serve registry fresh request) ∅ fun _ => True := by
  have received : Safe (sendingDiscipline rules setup jobs tidy) pid Outside
      (Webhooks.receiveWebhook registry fresh request) ∅ fun _ => True := by
    unfold Webhooks.receiveWebhook
    dsimp only
    split
    · exact fun world _ _ => rfl
    · exact safe_applyVerified watched _ _ _ _
  have responds : ∀ status, Safe (sendingDiscipline rules setup jobs tidy) pid Outside
      (Proc.perform (I := deliveryInterface)
        (.respond (Webhooks.callback registry fresh request) status)
        fun _ => HandlerError.panicked "the response could not be sent") ∅ fun _ => True := by
    intro status
    refine safe_post _ pid _ _ ?_ _ _ _ (safe_outside (β := Unit) watched
      (.respond (Webhooks.callback registry fresh request) status) trivial _ _ (fun _ _ => True)
      (fun _ _ _ => trivial) (fun _ => stable_true _ pid _) fun _ _ _ _ _ _ => trivial)
    rintro kept (error | value) world _ ended
    · exact ended
    · exact ended.1
  refine safe_then _ pid _ _ _ _ _ (fun _ => ∅) (fun _ _ => True) ?_ fun result => ?_
  · refine safe_attempt _ pid _ _ _ _ (safe_post _ pid Outside _ ?_ _ _ _ received)
    exact fun kept answer world _ outside => ⟨outside, trivial⟩
  · rcases result with (error | message) | status
    · exact responds error.status
    · exact fun world _ _ => rfl
    · exact responds status

end Webhooks

end SafeCameroon
