import SafeCameroon.Api.WebhookEffects
import SafeCameroon.Delivery.Lineage
import SafeCameroon.Library.Budget

namespace SafeCameroon

open Table Process Proc

def Call.Settles : Call → Prop
  | .applyTransition _ _ => True
  | _ => False

instance : DecidablePred Call.Settles := fun call => by
  cases call <;> unfold Call.Settles <;> infer_instance

abbrev Call.Plain (call : Call) : Prop := ¬ call.Settles

section Programs

theorem matching_plain (setup : WorkerSetup) (fresh : Supply) (batchSize : Nat) :
    (SubscriptionMatching.processBatch setup fresh batchSize).Uses Call.Plain := by
  refine uses_mono ?_ _ (matching_calls setup fresh batchSize)
  intro call made settles
  cases call with
  | applyTransition delivery transition => exact made.elim id id
  | _ => exact settles

theorem dispatch_plain (setup : WorkerSetup) (fresh : Supply) (batchSize : Nat) :
    (Dispatch.processBatch setup fresh batchSize).Uses Call.Plain := by
  refine uses_mono ?_ _ (dispatch_calls setup fresh batchSize)
  intro call dispatches settles
  cases call with
  | applyTransition delivery transition => exact dispatches
  | _ => exact settles

theorem serve_atMost (registry : WebhookVerifierRegistry) (fresh : Supply)
    (request : WebhookRequest) :
    (Webhooks.serve registry fresh request).AtMost Call.Settles 1 := by
  have persists : ∀ requestId call, Call.Plain call →
      (Webhooks.persist requestId call).AtMost Call.Settles 0 :=
    fun requestId call plain => atMost_uses _ 0 (uses_perform _ _ _ plain)
  have handles : (Webhooks.receiveWebhook registry fresh request).AtMost Call.Settles 1 := by
    unfold Webhooks.receiveWebhook
    dsimp only
    split
    · trivial
    · rename_i channel event _
      refine atMost_bind _ _ 0 1 (persists _ _ id) fun isNew => ?_
      cases isNew with
      | false => trivial
      | true =>
          refine atMost_bind _ _ 0 1 ?_ fun found => ?_
          · refine atMost_bind _ _ 0 0 (persists _ _ id) fun attempted => ?_
            cases attempted with
            | none => trivial
            | some id => exact persists _ _ fun impossible => impossible
          · cases found with
            | none => trivial
            | some delivery =>
                dsimp only
                split
                · trivial
                · exact atMost_bind _ _ 1 0 (atMost_perform _ _) fun _ => trivial
                · exact atMost_mono _ 0 1 (Nat.zero_le 1)
                    (atMost_bind _ _ 0 0 (persists _ _ id) fun _ => trivial)
  unfold Webhooks.serve
  refine atMost_bind _ _ 1 0 (atMost_attempt _ _ handles) fun result => ?_
  have responds : ∀ status, (Proc.perform (I := deliveryInterface)
      (.respond (Webhooks.callback registry fresh request) status) fun _ =>
        HandlerError.panicked "the response could not be sent").AtMost Call.Settles 0 :=
    fun status => atMost_uses _ 0 (uses_perform _ _ _ id)
  cases result with
  | ok status => exact responds status
  | error error =>
      cases error with
      | api error => exact responds error.status
      | panicked message => trivial

theorem pool_atMost (deployment : Deployment) (jobs : Nat → Job) (pid : Nat) :
    (deployment.pool jobs pid).AtMost Call.Settles 1 := by
  have batch : ∀ program : Worker Nat, (program.Uses Call.Plain) →
      ((program.bind fun _ => .done ()).mapError JobError.worker).AtMost Call.Settles 1 :=
    fun program plain => atMost_mapError _ _ _ (atMost_uses _ 1 (uses_bind _ _ _ plain fun _ => trivial))
  cases job : jobs pid with
  | matching fresh batchSize =>
      simp only [Deployment.pool, job, Deployment.run]
      exact batch _ (matching_plain _ _ _)
  | dispatch fresh batchSize =>
      simp only [Deployment.pool, job, Deployment.run]
      exact batch _ (dispatch_plain _ _ _)
  | webhook fresh request =>
      simp only [Deployment.pool, job, Deployment.run]
      exact atMost_mapError _ _ _ (serve_atMost _ _ _)
  | edit edit =>
      simp only [Deployment.pool, job, Deployment.run]
      exact atMost_perform _ _

end Programs

def Call.recorded : (call : Call) → Except Failure call.Res → List (ChannelType × String)
  | .recordIfNew channel providerEventId, .ok true => [(channel, providerEventId)]
  | _, _ => []

def recordedCallbacks (history : List Entry) : List (ChannelType × String) :=
  history.flatMap fun entry => entry.call.recorded entry.answer

/-- What the callbacks that were answered have to do with the deliveries. -/
structure Settlement (world : World) : Prop where
  delivered : ∀ row ∈ world.db.deliveries, row.status = .delivered →
    ∃ pid delivery transition time before, delivery.id = row.id ∧
      (⟨pid, .applyTransition delivery transition, .ok .applied, time, before⟩ : Entry) ∈
        world.history
  sentAs : ∀ pid messageId id time before,
    (⟨pid, .findSentAttempt messageId, .ok (some id), time, before⟩ : Entry) ∈ world.history →
      SentAs messageId id world.db
  once : (recordedCallbacks world.history).Nodup
  stored : recordedCallbacks world.history ⊆ world.db.webhookReplayEvents

section Step

variable {world : World} {pid : Nat} {call : Call} {env : Env}

theorem recordedCallbacks_execute : recordedCallbacks (world.execute pid call env).2.history =
    call.recorded (runCall env call world.db).1 ++ recordedCallbacks world.history := by
  simp [recordedCallbacks]

theorem recorded_cases (env : Env) (call : Call) (db : Db) :
    call.recorded (runCall env call db).1 = [] ∨ ∃ channel providerEventId,
      call = .recordIfNew channel providerEventId ∧
        (runCall env (.recordIfNew channel providerEventId) db).1 = .ok true := by
  cases call with
  | recordIfNew channel providerEventId =>
      cases answer : (runCall env (.recordIfNew channel providerEventId) db).1 with
      | error failure => exact Or.inl rfl
      | ok isNew =>
          cases isNew with
          | false => exact Or.inl rfl
          | true => exact Or.inr ⟨channel, providerEventId, rfl, answer⟩
  | _ => exact Or.inl rfl

theorem settlement_execute (agrees : Agrees world) (informed : Informed world.db call)
    (env : Env) (attempted : ∀ delivery transition,
      call = .applyAttemptTransition delivery transition → delivery.status ≠ .delivered)
    (settlement : Settlement world) : Settlement (world.execute pid call env).2 := by
  have wrote := informed.wrote agrees.ledger env
  have replays := (informed.announces agrees.ledger env).2.replays
  constructor
  case delivered =>
    intro later member status
    rw [World.execute_db] at member
    rw [World.execute_history]
    have earlier : (∃ row ∈ world.db.deliveries, row.id = later.id ∧ row.status = .delivered) →
        ∃ owner delivery transition time before, delivery.id = later.id ∧
          (⟨owner, .applyTransition delivery transition, .ok .applied, time, before⟩ : Entry) ∈
            (⟨pid, call, (runCall env call world.db).1, env.now, world.db⟩ : Entry) ::
              world.history := by
      intro stored
      obtain ⟨row, old, same, before⟩ := stored
      obtain ⟨owner, delivery, transition, time, found, equal, recorded⟩ :=
        settlement.delivered row old before
      exact ⟨owner, delivery, transition, time, found, equal.trans same,
        List.mem_cons_of_mem _ recorded⟩
    generalize (runCall env call world.db).1 = answer at wrote earlier ⊢
    generalize (runCall env call world.db).2 = after at wrote member
    cases wrote with
    | quiet same silent => exact earlier ⟨later, same.deliveries ▸ member, rfl, status⟩
    | @planned item inserted =>
        rcases (inserted.rows later).mp member with old | rfl
        · exact earlier ⟨later, old, rfl, status⟩
        · have queued := PlannedDelivery.Fresh.status informed
          simp [plannedRow, queued] at status
    | claimed locked all =>
        have batch := all.batch agrees.ledger.distinct agrees.ledger.readable
          (locked ▸ lockClaimable_distinct _ _ _ _ _ informed)
        rcases (batch.tables later).mp member with ⟨old, _⟩ | ⟨pair, inZip, rfl⟩
        · exact earlier ⟨later, old, rfl, status⟩
        · have sending := (batch.start _ inZip).status
          simp [advancedRow, sending] at status
    | @applied delivery transition advanced =>
        rcases (advanced.rows agrees.ledger.distinct later).mp member with
          ⟨old, _⟩ | ⟨row, old, same, _, rfl⟩
        · exact earlier ⟨later, old, rfl, status⟩
        · exact ⟨pid, delivery, transition, env.now, world.db, same.symm, List.mem_cons_self⟩
    | @attempted delivery transition advanced =>
        rcases (advanced.rows agrees.ledger.distinct later).mp member with
          ⟨old, _⟩ | ⟨row, old, same, _, rfl⟩
        · exact earlier ⟨later, old, rfl, status⟩
        · exact absurd status (attempted delivery transition rfl)
  case sentAs =>
    intro owner messageId id time before member
    have kept : SentAs messageId id world.db →
        SentAs messageId id (world.execute pid call env).2.db := by
      intro sent
      obtain ⟨attempt, recorded, facts⟩ := sent
      exact ⟨attempt, wrote.attempts attempt recorded, facts⟩
    apply kept
    rcases List.mem_cons.mp member with latest | old
    · obtain ⟨_, rfl, same, _, _⟩ := Entry.mk.inj latest
      have answer := query_ok _ _ _ _ _ (eq_of_heq same).symm
      exact findSentAttempt_sentAs env.tie messageId world.db id (Except.ok.inj answer)
    · exact settlement.sentAs owner messageId id time before old
  case once =>
    rw [recordedCallbacks_execute]
    rcases recorded_cases env call world.db with none | ⟨channel, providerEventId, rfl, isNew⟩
    · rw [none]
      exact settlement.once
    · have unseen := (recordIfNew_true channel env providerEventId world.db isNew).1
      rw [isNew]
      exact List.nodup_cons.mpr ⟨fun old => unseen (settlement.stored old), settlement.once⟩
  case stored =>
    rw [recordedCallbacks_execute, World.execute_db]
    intro key member
    rcases List.mem_append.mp member with new | old
    · rcases recorded_cases env call world.db with none | ⟨channel, providerEventId, rfl, isNew⟩
      · rw [none] at new
        exact absurd new List.not_mem_nil
      · rw [(recordIfNew_true channel env providerEventId world.db isNew).2.2]
        rw [isNew] at new
        exact List.mem_append_right _ new
    · exact replays (settlement.stored old)

theorem settlement_initial (db : Db) (initial : db.Initial) : Settlement (World.initial db) := by
  constructor <;> simp [World.initial, initial.deliveries, recordedCallbacks]

end Step

theorem recordedAttempt_status (fresh : Supply) (before delivery : Delivery) (actor : Actor)
    (requestId : Uuid) (transition : DeliveryAttemptTransition)
    (result : (∃ messageId, recordDeliverySuccess fresh before messageId actor requestId =
        .ok (delivery, transition)) ∨
      ∃ retryable reason, recordDeliveryFailure fresh before retryable reason actor requestId =
        .ok (delivery, transition)) : delivery.status ≠ .delivered := by
  rcases result with ⟨messageId, success⟩ | ⟨retryable, reason, failure⟩
  · rw [(recordDeliverySuccess_outcome _ _ _ _ _ _ _ success).2]
    simp
  · simp only [recordDeliveryFailure, bind_ok, pure, Except.pure, Except.ok.injEq,
      Prod.mk.injEq] at failure
    obtain ⟨⟨after, event, attempt⟩, recorded, rfl, rfl⟩ := failure
    by_cases sending : before.status = .sending
    · simp only [Delivery.recordFailure, sending, if_true, Except.ok.injEq,
        Prod.mk.injEq] at recorded
      obtain ⟨rfl, _⟩ := recorded
      dsimp only
      split <;> simp
    · simp [Delivery.recordFailure, sending] at recorded

theorem reach_settlement (deployment : Deployment) (jobs : Nat → Job) (init : Db)
    (initial : init.Initial) (config : Pool)
    (reached : deployment.Reaches jobs clockRules init config) : Settlement config.state := by
  apply reach_invariant deployment jobs (clockRules_watched jobs) init initial
  · exact settlement_initial init initial
  · intro world pid call env exclusive proper _ settlement
    have informed := Proper.informed deployment.setup (jobs pid) pid world call exclusive.agrees proper
    refine settlement_execute exclusive.agrees informed env ?_ settlement
    rintro delivery transition rfl
    obtain ⟨_, fresh, before, actor, requestId, _, result⟩ := proper
    exact recordedAttempt_status fresh before delivery actor requestId transition result
  · exact reached

/-- The callback that settled the delivery: its signature was verified, it was the first under its id,
it reports a message that was sent for the delivery, and its transition was committed. -/
structure SettledBy (deployment : Deployment) (jobs : Nat → Job) (world : World) (id : DeliveryId)
    (pid : Nat) (channel : ChannelType) (event : WebhookEvent) : Prop where
  verified : deployment.verified (jobs pid) = some (channel, event)
  status : event.status = .delivered
  first : world.Learnt pid (.recordIfNew channel event.providerEventId) true
  sentAs : SentAs event.providerMessageId id world.db
  committed : ∃ delivery transition, delivery.id = id ∧
    world.Learnt pid (.applyTransition delivery transition) .applied

section Runs

variable {deployment : Deployment} {jobs : Nat → Job} {world : World}

theorem heard_of_mem {pid : Nat} {call : Call} {value : call.Res} {time : Timestamp} {before : Db}
    (member : (⟨pid, call, .ok value, time, before⟩ : Entry) ∈ world.history) :
    Heard (world.trace pid) call value :=
  List.mem_map.mpr ⟨_, List.mem_filter.mpr ⟨member, by simp⟩, rfl⟩

theorem Lineage.settledBy (lineage : Lineage deployment jobs world) (settlement : Settlement world)
    (row : DeliveryRow) (member : row ∈ world.db.deliveries) (status : row.status = .delivered) :
    ∃ pid channel event, SettledBy deployment jobs world row.id pid channel event := by
  obtain ⟨pid, delivery, transition, time, before, same, recorded⟩ :=
    settlement.delivered row member status
  obtain ⟨channel, event, id, earlier, fresh, requestId, verified, reported, first, attempted, found,
    result⟩ := lineage.founded _ recorded
  obtain ⟨moment, tables, asked⟩ := World.mem_trace pid world _ _ attempted
  have sentAs := settlement.sentAs pid _ _ _ _ asked
  have moves := recordDeliveryDelivered_moves fresh earlier delivery .automated requestId transition
    result
  obtain ⟨_, _, env, _, answer⟩ := lineage.learnt found
  have read := query_ok _ _ _ _ _ answer
  have subject : earlier.id = id := by
    simp only [PostgresDeliveryRepository.findById] at read
    split at read
    · simp at read
    · rename_i stored there
      cases whole : deliveryFromRow stored with
      | error failure => simp [whole, Except.map] at read
      | ok value =>
          obtain rfl : value = earlier := by simpa [whole, Except.map] using read
          simp only [deliveryFromRow, bind_ok, pure, Except.pure, Except.ok.injEq] at whole
          obtain ⟨_, _, _, _, _, _, _, _, _, _, rfl⟩ := whole
          exact (lookup_some _ _ _ _ there).2
  have named : row.id = id := calc
    row.id = delivery.id := same.symm
    _ = earlier.id := moves.id
    _ = id := subject
  refine ⟨pid, channel, event, verified, reported, lineage.learnt first, named ▸ sentAs, ?_⟩
  exact ⟨delivery, transition, same, lineage.learnt (heard_of_mem recorded)⟩

theorem Settlement.recorder (settlement : Settlement world) {pid other : Nat} {channel : ChannelType}
    {providerEventId : String} (first : world.Learnt pid (.recordIfNew channel providerEventId) true)
    (second : world.Learnt other (.recordIfNew channel providerEventId) true) : pid = other := by
  obtain ⟨time, before, _, left, _⟩ := first
  obtain ⟨moment, tables, _, right, _⟩ := second
  have same := flatMap_origin (fun entry : Entry => entry.call.recorded entry.answer) world.history
    settlement.once left right (List.mem_singleton_self (channel, providerEventId))
    (List.mem_singleton_self _)
  exact congrArg Entry.pid same

/-- However workers, callbacks and other requests interleave, fail and stop, every delivery that counts
as delivered was settled by a verified and new callback about a message sent for it, and no callback
settles two deliveries. -/
theorem delivered_by_one_callback (deployment : Deployment) (jobs : Nat → Job) (init : Db)
    (initial : init.Initial) (config : Pool)
    (reached : deployment.Reaches jobs clockRules init config) :
    (∀ row ∈ config.state.db.deliveries, row.status = .delivered → ∃ pid channel event,
      SettledBy deployment jobs config.state row.id pid channel event) ∧
    ∀ first second pid other channel event report,
      SettledBy deployment jobs config.state first pid channel event →
      SettledBy deployment jobs config.state second other channel report →
      event.providerEventId = report.providerEventId → first = second := by
  have lineage := (reach_lineage deployment jobs init initial config reached).1
  have settlement := reach_settlement deployment jobs init initial config reached
  refine ⟨fun row member status => lineage.settledBy settlement row member status, ?_⟩
  intro first second pid other channel event report left right same
  obtain rfl := settlement.recorder left.first (same ▸ right.first)
  have once := spent_reach Call.Settles recordedCalls clockRules 1 (deployment.pool jobs)
    (pool_atMost deployment jobs) (initially (World.initial init)) (fun _ => rfl) (fun _ => rfl) config
    reached pid
  obtain ⟨delivery, transition, rfl, _, _, _, made, _⟩ := left.committed
  obtain ⟨latter, change, rfl, _, _, _, again, _⟩ := right.committed
  have exchange := spent_one Call.Settles _ once _ _ (heard_of_mem made) (heard_of_mem again)
    trivial trivial
  have call : Call.applyTransition delivery transition = .applyTransition latter change :=
    congrArg Exchange.op exchange
  obtain ⟨rfl, _⟩ := Call.applyTransition.inj call
  rfl

end Runs

section Callback

open Scenario

def callbackJobs : Nat → Job
  | 3 => .webhook (Supply.of 4) (posted "whatsapp" deliveredSignature deliveredBody)
  | pid => jobs pid

/-- The alert is sent by WhatsApp, and the provider reports that it arrived. -/
theorem delivered_by_one_callback_scenario : ∃ (config : Pool) (row : DeliveryRow) (pid : Nat)
    (channel : ChannelType) (event : WebhookEvent), row ∈ config.state.db.deliveries ∧
      SettledBy deployment callbackJobs config.state row.id pid channel event := by
  obtain ⟨config, arrived, found, _⟩ := play_reaches (deployment.pool callbackJobs)
    (initially (World.initial store) : Pool) timely timely_sound
    (runs 0 1 1 ++ runs 1 7 10 ++ runs 2 6 20 ++ runs 3 5 30)
    (fun config => config.state.db.deliveries.any (·.status = .delivered)) (by decide +kernel)
  obtain ⟨row, member, status⟩ := List.any_eq_true.mp found
  obtain ⟨pid, channel, event, settled⟩ := (delivered_by_one_callback deployment callbackJobs store
    store_initial config arrived).1 row member (of_decide_eq_true status)
  exact ⟨config, row, pid, channel, event, member, settled⟩

end Callback

end SafeCameroon
