import SafeCameroon.Api.WebhookSafety
import SafeCameroon.Delivery.Agreement
import SafeCameroon.Worker.DispatchSafety
import SafeCameroon.Worker.MatchingSafety

namespace SafeCameroon

open Table Process Ownership

/-- How a job ends: with nothing in flight unless the run is untidy, and a dispatching worker never at
an `expect` of its own. -/
def JobEnds (jobs : Nat → Job) (tidy : Prop) (pid : Nat) :
    Post deliveryMachine DeliveryId JobError Unit := fun kept answer _ =>
  (tidy → kept = ∅) ∧
    ((jobs pid).isDispatch → ∀ message, answer ≠ .error (.worker (.expectation message)))

section Run

variable {rules : Rules deliveryMachine} {tidy : Prop} (deployment : Deployment) (jobs : Nat → Job)
  (watched : Watched rules jobs tidy)
include watched

omit watched in
theorem safe_outside_ends (pid : Nat) (plain : ¬ (jobs pid).isDispatch) {ε : Type}
    (raise : ε → JobError) (program : Proc deliveryInterface ε Unit)
    (safe : Safe (sendingDiscipline rules deployment.setup jobs tidy) pid Outside program ∅
      fun _ => True) :
    Safe (sendingDiscipline rules deployment.setup jobs tidy) pid (JobEnds jobs tidy pid)
      (program.mapError raise) ∅ fun _ => True := by
  refine safe_mapError _ pid raise _ program _ _ (safe_post _ pid Outside _ ?_ _ _ _ safe)
  exact fun kept answer _ _ outside => ⟨fun _ => outside, fun dispatch => absurd dispatch plain⟩

theorem safe_job (pid : Nat) :
    Safe (sendingDiscipline rules deployment.setup jobs tidy) pid (JobEnds jobs tidy pid)
      (deployment.pool jobs pid) ∅ fun _ => True := by
  cases job : jobs pid with
  | matching fresh batchSize =>
      simp only [Deployment.pool, job, Deployment.run]
      refine safe_outside_ends deployment jobs pid (by simp [job, Job.isDispatch]) _ _ ?_
      refine safe_bind _ pid Outside _ _ _ _ _ (safe_matching watched fresh batchSize) ?_
        fun _ _ _ _ outside => outside
      exact fun _ kept world _ outside => outside
  | dispatch fresh batchSize =>
      have dispatching : (jobs pid).isDispatch := by rw [job]; trivial
      simp only [Deployment.pool, job, Deployment.run]
      refine safe_mapError _ pid JobError.worker _ _ _ _ ?_
      refine safe_bind _ pid (WorkerEnds tidy) _ _ _ _ _
        (safe_processBatch watched dispatching fresh batchSize) ?_ ?_
      · exact fun _ kept world _ ended => ⟨ended.1, fun _ message => by simp [Except.mapError]⟩
      · intro error kept world _ ended
        refine ⟨ended.1, fun _ message same => ended.2 message ?_⟩
        simpa [Except.mapError] using same
  | webhook fresh request =>
      simp only [Deployment.pool, job, Deployment.run]
      exact safe_outside_ends deployment jobs pid (by simp [job, Job.isDispatch]) _ _
        (safe_serve watched deployment.registry fresh request)
  | edit edit =>
      simp only [Deployment.pool, job, Deployment.run]
      refine safe_post _ pid _ _ ?_ _ _ _ (safe_outside (β := Unit) watched (.edit edit) trivial
        JobError.edit _ (fun _ _ => True) (fun _ _ _ => trivial) (fun _ => stable_true _ pid _)
        fun _ _ _ _ _ _ => trivial)
      rintro kept (error | value) world _ ended
      · exact ⟨fun _ => ended, fun dispatch => by simp [job, Job.isDispatch] at dispatch⟩
      · exact ⟨fun _ => ended.1, fun dispatch => by simp [job, Job.isDispatch] at dispatch⟩

theorem assigned_pool (init : Db) (initial : init.Initial) (config : Pool)
    (reached : deployment.Reaches jobs rules init config) :
    ∃ own know, Assigned (sendingDiscipline rules deployment.setup jobs tidy)
      (JobEnds jobs tidy) config own know :=
  assigned_reach (sendingDiscipline rules deployment.setup jobs tidy) _ _ _
    (exclusive_initial deployment.setup jobs init initial)
    (fun id inFlight => by
      obtain ⟨row, member, _⟩ := inFlight
      simp [World.initial, initial.deliveries] at member)
    (safe_job deployment jobs watched) config reached

theorem pool_exclusive (init : Db) (initial : init.Initial) (config : Pool)
    (reached : deployment.Reaches jobs rules init config) :
    Exclusive deployment.setup jobs config.state := by
  obtain ⟨_, _, assigned⟩ := assigned_pool deployment jobs watched init initial config reached
  exact assigned.inv

theorem reach_invariant (init : Db) (initial : init.Initial) (holds : World → Prop)
    (first : holds (World.initial init))
    (next : ∀ world pid call env, Exclusive deployment.setup jobs world →
      Proper deployment.setup (jobs pid) pid world.db world.history call →
      rules.mayCall pid call env world → holds world → holds (world.execute pid call env).2)
    (config : Pool) (reached : deployment.Reaches jobs rules init config) : holds config.state := by
  induction reached with
  | start => exact first
  | step label before legal stepped ih =>
      have current := pool_exclusive deployment jobs watched init initial _ before
      have after := pool_exclusive deployment jobs watched init initial _
        (.step label before legal stepped)
      rcases step_cases _ _ _ label stepped with
        ⟨pid, rfl, _, rfl⟩ | ⟨pid, env, call, rest, rfl, slot, rfl⟩ | ⟨pid, call, rest, rfl, _, rfl⟩
      · exact ih
      · have proper := after.latest _ _ rfl
        exact next _ pid call env current proper (legal call rest slot) ih
      · exact ih

theorem reach_follows (init : Db) (initial : init.Initial) (config later : Pool)
    (reached : deployment.Reaches jobs rules init config)
    (rest : Reach rules (deployment.pool jobs) config later) (row : DeliveryRow)
    (member : row ∈ config.state.db.deliveries) :
    ∃ after ∈ later.state.db.deliveries, Follows row after := by
  have assigned := assigned_pool deployment jobs watched init initial config reached
  have progress := assigned_progress _ _ _ (safe_job deployment jobs watched)
    (fun s t : World => ∀ row ∈ s.db.deliveries, ∃ after ∈ t.db.deliveries, Follows row after)
    (fun s row member => ⟨row, member, .refl row⟩)
    (fun s t u first second row member => by
      obtain ⟨middle, inTable, follows⟩ := first row member
      obtain ⟨after, inLater, goesOn⟩ := second middle inTable
      exact ⟨after, inLater, follows.trans goesOn⟩)
    (fun pid s t _ grows row member => Grows.continues grows |>.kept row member)
    config later assigned rest
  exact progress.1 row member

end Run

theorem clockRules_watched (jobs : Nat → Job) : Watched clockRules jobs False where
  timely := fun _ _ _ _ legal => legal
  errors := fun impossible => impossible.elim
  drops := fun impossible => impossible.elim

/-- What a run promises about claims, sends and the outcomes that workers record. -/
structure ExclusiveClaims (jobs : Nat → Job) (config : Pool) : Prop where
  handedOnce : (handedOut config.state.history).Nodup
  sentOnce : (sends config.state.history).Nodup
  sentHanded : ∀ attempt ∈ sends config.state.history, attempt ∈ handedOut config.state.history
  sentBounded : ∀ attempt ∈ sends config.state.history, ∃ row ∈ config.state.db.deliveries,
    row.id = attempt.1 ∧
      ((sends config.state.history).filter fun other => other.1 = attempt.1).length ≤ row.maxAttempts
  readyAndDue : ∀ pid limit snapshot claimed time before,
    ⟨pid, .lockAndStart limit snapshot, .ok claimed, time, before⟩ ∈ config.state.history →
      ∀ delivery ∈ claimed, ∃ row ∈ before.deliveries, row.id = delivery.id ∧
        (row.status = .queued ∨ row.status = .retrying) ∧ ∀ due ∈ row.nextAttemptAt, due ≤ time
  noConflict : ∀ pid delivery transition time before,
    ⟨pid, .applyAttemptTransition delivery transition, .ok .conflict, time, before⟩ ∈
      config.state.history → ¬ (jobs pid).isDispatch
  noPanic : ∀ pid limit snapshot message time before,
    ⟨pid, .lockAndStart limit snapshot, .error (.panic message), time, before⟩ ∉ config.state.history
  noExpectation : ∀ pid message, (jobs pid).isDispatch →
    config.slots pid ≠ .active (.fail (.worker (.expectation message)))

theorem sends_bounded (setup : WorkerSetup) (jobs : Nat → Job) (world : World)
    (exclusive : Exclusive setup jobs world) (row : DeliveryRow) (member : row ∈ world.db.deliveries) :
    ((sends world.history).filter fun other => other.1 = row.id).length ≤ row.maxAttempts := by
  have numbers : (((sends world.history).filter fun other => other.1 = row.id).map Prod.snd).Nodup := by
    refine List.Nodup.map_on ?_ (exclusive.sends.filter _)
    intro first inFirst second inSecond same
    have left := of_decide_eq_true (List.mem_filter.mp inFirst).2
    have right := of_decide_eq_true (List.mem_filter.mp inSecond).2
    exact Prod.ext (left.trans right.symm) same
  have inRange : ((sends world.history).filter fun other => other.1 = row.id).map Prod.snd ⊆
      List.range' 1 row.maxAttempts := by
    intro number found
    obtain ⟨pair, inSends, rfl⟩ := List.mem_map.mp found
    obtain ⟨sent, same⟩ := List.mem_filter.mp inSends
    obtain ⟨positive, stored, inTable, equal, count⟩ :=
      exclusive.stored pair (exclusive.claimed pair sent)
    obtain rfl := eq_of_key (·.id) _ exclusive.agrees.ledger.distinct stored row inTable member
      (equal.trans (of_decide_eq_true same))
    obtain ⟨_, _, consistent⟩ := exclusive.agrees.ledger.consistent stored inTable
    have bounded : stored.attemptCount ≤ stored.maxAttempts := consistent.bounded
    rw [List.mem_range']
    exact ⟨pair.2 - 1, by omega, by omega⟩
  have length := (List.subperm_of_subset numbers inRange).length_le
  simpa using length

/-- In every run claims are exclusive and no attempt is sent twice. -/
theorem claims_exclusive (deployment : Deployment) (jobs : Nat → Job) (init : Db)
    (initial : init.Initial) (config : Pool)
    (reached : deployment.Reaches jobs clockRules init config) : ExclusiveClaims jobs config := by
  obtain ⟨own, know, assigned⟩ :=
    assigned_pool deployment jobs (clockRules_watched jobs) init initial config reached
  have exclusive : Exclusive deployment.setup jobs config.state := assigned.inv
  refine ⟨exclusive.handed, exclusive.sends, exclusive.claimed, ?_, ?_, ?_, ?_, ?_⟩
  · intro attempt sent
    obtain ⟨_, row, member, same, _⟩ := exclusive.stored attempt (exclusive.claimed attempt sent)
    exact ⟨row, member, same, same ▸ sends_bounded _ jobs config.state exclusive row member⟩
  · intro pid limit snapshot claimed time before recorded delivery inClaimed
    obtain ⟨past, rows⟩ := exclusive.orderly _ recorded
    obtain ⟨row, member, start, due⟩ := rows delivery inClaimed
    exact ⟨row, member, start.same.id, start.ready, fun time scheduled =>
      (due time scheduled).trans past⟩
  · intro pid delivery transition time before recorded dispatching
    have outcome := exclusive.orderly _ recorded dispatching
    simp at outcome
  · intro pid limit snapshot message time before recorded
    have failure := exclusive.orderly _ recorded
    simp [Orderly] at failure
  · intro pid message dispatching slot
    have ends := assigned.active pid _ slot config.state exclusive (assigned.known pid)
    exact ends.2 dispatching message rfl

namespace Scenario

def jobs : Nat → Job
  | 0 => .edit (.createAlert creation)
  | 1 => .matching (Supply.of 1) 10
  | 2 => .dispatch (Supply.of 2) 10
  | _ => .dispatch (Supply.of 3) 10

/-- The same call when the database fails. -/
def faulty (now : Timestamp) : Env := { env now with fault := true }

/-- The same call when the provider refuses the message for good. -/
def refusing (now : Timestamp) : Env :=
  { env now with reply := .error { message := "unknown number", retryable := false } }

/-- The process begins and then makes so many calls, the first at the given time. -/
def runsWith (env : Timestamp → Env) (pid calls : Nat) (now : Timestamp) : List (Label Env) :=
  stretch (fun index => env (now + index)) pid calls

def runs : Nat → Nat → Timestamp → List (Label Env) := runsWith env

def timely (config : Pool) : Label Env → Bool
  | .call _ env => decide (config.state.clock ≤ env.now)
  | _ => true

theorem timely_sound (config : Pool) (label : Label Env) (h : timely config label = true) :
    clockRules.legal config label := by
  cases label with
  | start pid => trivial
  | call pid env =>
      have later : config.state.clock ≤ env.now := of_decide_eq_true h
      exact fun _ _ _ => later
  | halt pid => exact fun _ _ _ => trivial

/-- No process is dropped, and only the given calls fail. -/
def sparing (spared : Call → Bool) (config : Pool) : Label Env → Bool
  | .start _ => true
  | .halt _ => false
  | .call pid env => timely config (.call pid env) && match config.slots pid with
    | .active (.call call _) => spared call || (runCall env call config.state.db).1.isOk
    | _ => true

theorem sparing_sound (rules : Rules deliveryMachine) (spared : Call → Bool)
    (allows : ∀ pid call env (world : World), world.clock ≤ env.now →
      (∀ failure, (runCall env call world.db).1 = .error failure → spared call = true) →
        rules.mayCall pid call env world)
    (config : Pool) (label : Label Env) (h : sparing spared config label = true) :
    rules.legal config label := by
  cases label with
  | start pid => trivial
  | halt pid => simp [sparing] at h
  | call pid env =>
      intro call next slot
      simp only [sparing, slot, Bool.and_eq_true, Bool.or_eq_true] at h
      refine allows pid call env config.state (of_decide_eq_true h.1) fun failure failed => ?_
      rcases h.2 with allowed | succeeded
      · exact allowed
      · simp [failed, Except.isOk, Except.toBool] at succeeded

def webhookSecret : Bytes := Text.asciiBytes "sandbox-secret"

/-- The provider reports that the message `wa-1` arrived. -/
def deliveredBody : Bytes :=
  Text.asciiBytes "\x7b\"event_id\":\"evt-1\",\"message_id\":\"wa-1\",\"status\":\"DELIVERED\"\x7d"

def deliveredSignature : String := "f087703516f005a5ee2cf13e18648103bb8152f2be5ba05c4ce7967059c24a5b"

/-- The provider reports that the message `wa-1` could not be delivered after all. -/
def failedBody : Bytes :=
  Text.asciiBytes ("\x7b\"event_id\":\"evt-2\",\"message_id\":\"wa-1\",\"status\":\"FAILED\"," ++
    "\"reason\":\"undeliverable\",\"retryable\":true\x7d")

def failedSignature : String := "bd7c9123b9ac1f5c4bdf5c723f2d985413300a236a04b3a27442e980cee136d3"

/-- The HMAC-SHA256 and the parse of the two bodies. -/
def libraries : WebhookLibraries :=
  { hmacSha256 := fun key message =>
      if key = webhookSecret ∧ message = deliveredBody then
        [240, 135, 112, 53, 22, 240, 5, 165, 238, 44, 241, 62, 24, 100, 129, 3,
         187, 129, 82, 242, 190, 91, 160, 92, 76, 231, 150, 112, 89, 194, 74, 91]
      else if key = webhookSecret ∧ message = failedBody then
        [189, 124, 145, 35, 185, 172, 31, 92, 75, 223, 92, 114, 63, 45, 152, 84,
         19, 48, 10, 35, 106, 4, 179, 162, 116, 66, 233, 128, 206, 225, 54, 211]
      else []
    fromSlice := fun body =>
      if body = deliveredBody then
        .ok (.object [("event_id", .string "evt-1"), ("message_id", .string "wa-1"),
          ("status", .string "DELIVERED")])
      else if body = failedBody then
        .ok (.object [("event_id", .string "evt-2"), ("message_id", .string "wa-1"),
          ("status", .string "FAILED"), ("reason", .string "undeliverable"),
          ("retryable", .bool true)])
      else .error "expected value at line 1 column 1" }

def posted (channelSegment : String) (signature : String) (body : Bytes) : WebhookRequest :=
  { channelSegment, provider := Webhooks.sandboxWebhookProvider
    headers := [("x-signature", Text.asciiBytes signature)], body }

def deployment : Deployment :=
  { setup, registry := Webhooks.buildVerifiers libraries webhookSecret }

end Scenario

open Scenario in
/-- The run in which a worker claims the one alert's first delivery and sends it. -/
theorem claims_exclusive_sent : ∃ config : Pool, sends config.state.history ≠ [] ∧
    ExclusiveClaims jobs config := by
  obtain ⟨config, reached, sent, _⟩ := play_reaches (deployment.pool jobs)
    (initially (World.initial store) : Pool) timely timely_sound
    (runs 0 1 1 ++ runs 1 7 10 ++ runs 2 6 20) (fun config => sends config.state.history ≠ [])
    (by decide +kernel)
  exact ⟨config, of_decide_eq_true sent,
    claims_exclusive deployment jobs store store_initial config reached⟩

end SafeCameroon
