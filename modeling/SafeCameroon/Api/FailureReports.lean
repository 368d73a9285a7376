import SafeCameroon.Api.WebhookEffects
import SafeCameroon.Delivery.Pool

namespace SafeCameroon

open Table Process Ownership

/-- A verified failure report, seen for the first time, for the message that a delivery was sent with
and that was not reported delivered. -/
structure FailureReport (deployment : Deployment) (fresh : Supply) (request : WebhookRequest)
    (channel : ChannelType) (event : WebhookEvent) (db : Db) (row : DeliveryRow) : Prop where
  verified : Webhooks.callback deployment.registry fresh request = some (channel, event)
  failed : ∃ retryable reason, event.status = .failed retryable reason
  first : (channel, event.providerEventId) ∉ db.webhookReplayEvents
  stored : row ∈ db.deliveries
  sent : SentAs event.providerMessageId row.id db
  unreported : row.status ≠ .delivered

def FailureTaken (row : DeliveryRow) (after : Db) : Prop :=
  ∃ later ∈ after.deliveries, later.id = row.id ∧
    (later.status = .retrying ∨ later.status = .failedPermanently)

section Report

variable {deployment : Deployment} {fresh : Supply} {request : WebhookRequest} {channel : ChannelType}
  {event : WebhookEvent} {row : DeliveryRow}

theorem FailureReport.status {db : Db}
    (report : FailureReport deployment fresh request channel event db row)
    (transitions : DeliveryId → Nat) (ledger : Ledger db transitions) : row.status = .sent := by
  obtain ⟨attempt, recorded, subject, sent, _⟩ := report.sent
  have taken := ledger.sent row report.stored attempt recorded subject sent
  exact taken.resolve_right report.unreported

theorem FailureReport.unchanged {world : World}
    (report : FailureReport deployment fresh request channel event world.db row)
    (transitions : DeliveryId → Nat) (ledger : Ledger world.db transitions) (pid : Nat)
    (envs : List Env) : world.db.SameDeliveries (alone deliveryMachine pid envs
      (Webhooks.receiveWebhook deployment.registry fresh request) world).2.db := by
  rw [receiveWebhook_verified deployment.registry fresh request channel event report.verified]
  have outcome := applyVerified_outcome fresh (requestIdFromHeaders (fresh 4) request.headers)
    channel event pid world transitions ledger
  rcases ensures_alone _ pid _ _ _ outcome envs with same | delivered
  · exact same
  · obtain ⟨_, _, _, _, _, delivers, _⟩ := delivered
    obtain ⟨retryable, reason, failed⟩ := report.failed
    have status := delivers.status
    rw [failed] at status
    simp at status

theorem not_taken (row : DeliveryRow) (sent : row.status = .sent) (after : Db)
    (distinct : (after.deliveries.map (·.id)).Nodup)
    (kept : ∃ later ∈ after.deliveries, Follows row later) : ¬ FailureTaken row after := by
  obtain ⟨later, member, follows⟩ := kept
  intro ⟨other, inTable, same, status⟩
  have identical := eq_of_key (·.id) _ distinct other later inTable member
    (same.trans follows.id.symm)
  rw [identical] at status
  rcases follows.sent (Or.inl sent) with stillSent | delivered
  · simp [stillSent] at status
  · simp [delivered] at status

end Report

structure FailureIgnored (deployment : Deployment) (jobs : Nat → Job) (fresh : Supply)
    (request : WebhookRequest) (event : WebhookEvent) (config : Pool) (row : DeliveryRow) : Prop where
  unchanged : ∀ pid envs, config.state.db.SameDeliveries
    (alone deliveryMachine pid envs (Webhooks.receiveWebhook deployment.registry fresh request)
      config.state).2.db
  untaken : ∀ pid envs, ¬ FailureTaken row
    (alone deliveryMachine pid envs (Webhooks.receiveWebhook deployment.registry fresh request)
      config.state).2.db
  acknowledged : ¬ event.providerEventId.toList.all (· = ' ') = true →
    ∀ pid, ∀ first second third : Env, first.fault = false → second.fault = false →
      third.fault = false →
        (alone deliveryMachine pid [first, second, third]
          (Webhooks.receiveWebhook deployment.registry fresh request) config.state).1 =
            some (.ok 200)
  never : ∀ later : Pool, Reach clockRules (deployment.pool jobs) config later →
    ¬ FailureTaken row later.state.db

/-- No failure report takes effect: the handler answers 200 and leaves the delivery as it is, and
whatever follows the delivery is never retried and never fails. -/
theorem failure_never_taken (deployment : Deployment) (jobs : Nat → Job) (init : Db)
    (initial : init.Initial) (config : Pool)
    (reached : deployment.Reaches jobs clockRules init config) (fresh : Supply)
    (request : WebhookRequest) (channel : ChannelType) (event : WebhookEvent) (row : DeliveryRow)
    (report : FailureReport deployment fresh request channel event config.state.db row) :
    FailureIgnored deployment jobs fresh request event config row := by
  have watched := clockRules_watched jobs
  have ledger := (pool_exclusive deployment jobs watched init initial config reached).agrees.ledger
  have status := report.status _ ledger
  constructor
  · intro pid envs
    exact report.unchanged _ ledger pid envs
  · intro pid envs
    have rows := (report.unchanged _ ledger pid envs).deliveries
    apply not_taken row status
    · rw [rows]
      exact ledger.distinct
    · rw [rows]
      exact ⟨row, report.stored, .refl row⟩
  · intro nonblank pid first second third firstWorks secondWorks thirdWorks
    rw [receiveWebhook_verified deployment.registry fresh request channel event report.verified]
    exact applyVerified_failed_answers fresh _ channel event pid first second third config.state
      ⟨firstWorks, secondWorks, thirdWorks⟩ _ ledger nonblank report.first report.failed
  · intro later rest
    have arrived := reached.trans _ _ _ _ _ rest
    have afterwards := pool_exclusive deployment jobs watched init initial later arrived
    apply not_taken row status _ afterwards.agrees.ledger.distinct
    exact reach_follows deployment jobs watched init initial config later reached rest row report.stored

section Run

open Scenario

def failedEvent : WebhookEvent :=
  { providerEventId := "evt-2", providerMessageId := "wa-1"
    status := .failed true "undeliverable" }

theorem failedEvent_verified : Webhooks.callback deployment.registry (Supply.of 9)
    (posted "whatsapp" failedSignature failedBody) = some (.whatsApp, failedEvent) := by
  decide +kernel

theorem failureReport_arrives : ∃ config : Pool, ∃ row,
    deployment.Reaches jobs clockRules store config ∧
      FailureReport deployment (Supply.of 9) (posted "whatsapp" failedSignature failedBody) .whatsApp
        failedEvent config.state.db row := by
  obtain ⟨config, reached, holds, _⟩ := play_reaches (deployment.pool jobs)
    (initially (World.initial store) : Pool) timely timely_sound
    (runs 0 1 1 ++ runs 1 7 10 ++ runs 2 6 20)
    (fun config => decide ((.whatsApp, "evt-2") ∉ config.state.db.webhookReplayEvents) &&
      config.state.db.deliveries.any fun row => decide (row.status = .sent) &&
        config.state.db.deliveryAttempts.any fun attempt => decide (attempt.deliveryId = row.id) &&
          decide (attempt.outcome = .sent) && decide (attempt.providerMessageId = some "wa-1"))
    (by decide +kernel)
  simp only [Bool.and_eq_true, List.any_eq_true, decide_eq_true_eq] at holds
  obtain ⟨first, row, member, status, attempt, recorded, ⟨subject, sent⟩, messageId⟩ := holds
  refine ⟨config, row, reached, ?_⟩
  constructor
  · exact failedEvent_verified
  · exact ⟨true, "undeliverable", rfl⟩
  · exact first
  · exact member
  · exact ⟨attempt, recorded, subject, sent, messageId⟩
  · simp [status]

theorem failure_never_taken_reported : ∃ config : Pool, ∃ row, FailureIgnored deployment jobs
    (Supply.of 9) (posted "whatsapp" failedSignature failedBody) failedEvent config row := by
  obtain ⟨config, row, reached, report⟩ := failureReport_arrives
  exact ⟨config, row, failure_never_taken deployment jobs store store_initial config reached
    (Supply.of 9) (posted "whatsapp" failedSignature failedBody) .whatsApp failedEvent row report⟩

/-- The handler answers the report with 200, and the delivery stays `SENT`. -/
theorem failure_acknowledged_unchanged : ∃ config : Pool, ∃ row after,
    deployment.Reaches jobs clockRules store config ∧
      FailureReport deployment (Supply.of 9) (posted "whatsapp" failedSignature failedBody) .whatsApp
        failedEvent config.state.db row ∧
      alone deliveryMachine 9 [env 50, env 51, env 52] (Webhooks.receiveWebhook deployment.registry
        (Supply.of 9) (posted "whatsapp" failedSignature failedBody)) config.state =
          (some (.ok 200), after) ∧
      row ∈ after.db.deliveries ∧ row.status = .sent ∧ ¬ FailureTaken row after.db := by
  obtain ⟨config, row, reached, report⟩ := failureReport_arrives
  have ledger := (pool_exclusive deployment jobs (clockRules_watched jobs) store store_initial config
    reached).agrees.ledger
  have status := report.status _ ledger
  have same := report.unchanged _ ledger 9 [env 50, env 51, env 52]
  have answered := applyVerified_failed_answers (Supply.of 9)
    (requestIdFromHeaders ((Supply.of 9) 4) (posted "whatsapp" failedSignature failedBody).headers)
    .whatsApp failedEvent 9 (env 50) (env 51) (env 52) config.state ⟨rfl, rfl, rfl⟩ _ ledger
    (by decide) report.first report.failed
  rw [← receiveWebhook_verified deployment.registry (Supply.of 9)
    (posted "whatsapp" failedSignature failedBody) .whatsApp failedEvent report.verified] at answered
  have kept : row ∈ (alone deliveryMachine 9 [env 50, env 51, env 52] (Webhooks.receiveWebhook
      deployment.registry (Supply.of 9) (posted "whatsapp" failedSignature failedBody))
        config.state).2.db.deliveries := by
    rw [same.deliveries]
    exact report.stored
  refine ⟨config, row, _, reached, report, Prod.ext answered rfl, kept, status, ?_⟩
  apply not_taken row status
  · rw [same.deliveries]
    exact ledger.distinct
  · exact ⟨row, kept, .refl row⟩

end Run

end SafeCameroon
