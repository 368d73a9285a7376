import SafeCameroon.Delivery.Jobs
import SafeCameroon.Delivery.Exclusive
import SafeCameroon.Library.Trace

namespace SafeCameroon

open Process Proc Table

/-- What the process has called so far. -/
def World.trace (pid : Nat) (world : World) : List (Exchange deliveryInterface) :=
  (world.history.filter fun entry => entry.pid = pid).map fun entry => ⟨entry.call, entry.answer⟩

def recordedCalls : Process.Recorded deliveryMachine where
  trace := World.trace
  own := fun pid call env world => by simp [World.trace]
  other := fun pid other call env world differs => by simp [World.trace, Ne.symm differs]

theorem told_initial {ε α : Type}
    (proper : Nat → List (Exchange deliveryInterface) → Call → Prop)
    (post : Nat → List (Exchange deliveryInterface) → Except ε α → Prop) (init : Db) (pid : Nat) :
    Told recordedCalls proper post (initially (World.initial init)) pid := by
  simp [Told, initially, recordedCalls, World.trace, World.initial]

theorem World.mem_trace (pid : Nat) (world : World) (call : Call)
    (answer : Except Failure call.Res) (h : ⟨call, answer⟩ ∈ world.trace pid) :
    ∃ time before, (⟨pid, call, answer, time, before⟩ : Entry) ∈ world.history := by
  obtain ⟨⟨other, made, result, time, before⟩, member, same⟩ := List.mem_map.mp h
  obtain ⟨inHistory, owned⟩ := List.mem_filter.mp member
  obtain rfl : other = pid := by simpa using owned
  obtain ⟨rfl, equal⟩ := Exchange.mk.inj same
  obtain rfl := eq_of_heq equal
  exact ⟨time, before, inHistory⟩

def Reports (past : List (Exchange deliveryInterface)) : Call → Prop
  | .applyAttemptTransition delivery transition =>
      ∀ reason, transition.attempt.outcome = .failed true reason → ∃ channel message,
        ⟨.send delivery.id delivery.attemptCount channel message,
          .ok (.error { retryable := true, message := reason })⟩ ∈ past
  | _ => True

theorem recordDeliverySuccess_outcome (fresh : Supply) (before delivery : Delivery)
    (messageId : Option String) (actor : Actor) (requestId : Uuid)
    (transition : DeliveryAttemptTransition)
    (h : recordDeliverySuccess fresh before messageId actor requestId = .ok (delivery, transition)) :
    transition.attempt.outcome = .sent messageId ∧ delivery.status = .sent := by
  simp only [recordDeliverySuccess, bind_ok, pure, Except.pure, Except.ok.injEq, Prod.mk.injEq] at h
  obtain ⟨⟨after, event, attempt⟩, recorded, rfl, rfl⟩ := h
  by_cases sending : before.status = .sending
  · simp only [Delivery.recordSuccess, sending, if_true, Except.ok.injEq, Prod.mk.injEq] at recorded
    obtain ⟨rfl, _, rfl⟩ := recorded
    exact ⟨rfl, rfl⟩
  · simp [Delivery.recordSuccess, sending] at recorded

theorem recordDeliveryFailure_outcome (fresh : Supply) (before delivery : Delivery)
    (retryable : Bool) (reason : String) (actor : Actor) (requestId : Uuid)
    (transition : DeliveryAttemptTransition)
    (h : recordDeliveryFailure fresh before retryable reason actor requestId =
      .ok (delivery, transition)) :
    delivery.id = before.id ∧ delivery.attemptCount = before.attemptCount ∧
      transition.attempt.outcome = .failed retryable reason ∧
      (delivery.status = .retrying → retryable = true ∧
        before.attemptCount < before.retryPolicy.maxAttempts) := by
  simp only [recordDeliveryFailure, bind_ok, pure, Except.pure, Except.ok.injEq, Prod.mk.injEq] at h
  obtain ⟨⟨after, event, attempt⟩, recorded, rfl, rfl⟩ := h
  by_cases sending : before.status = .sending
  · simp only [Delivery.recordFailure, sending, if_true, Except.ok.injEq, Prod.mk.injEq] at recorded
    obtain ⟨rfl, _, rfl⟩ := recorded
    refine ⟨rfl, rfl, rfl, ?_⟩
    intro retrying
    simpa using retrying
  · simp [Delivery.recordFailure, sending] at recorded

section Programs

variable {ε α : Type}

theorem yields_demand (message : String) (result : Except ε α)
    (past : List (Exchange deliveryInterface)) :
    (demand message result).Yields Reports (fun _ value => result = .ok value) past := by
  cases result with
  | ok value => exact yields_done _ _ _ rfl
  | error error => exact yields_fail _ _ _

theorem yields_last (call : Call) (past : List (Exchange deliveryInterface))
    (allowed : Reports past call) :
    ((ask call).bind fun _ => .done ()).Yields Reports (fun _ _ => True) past :=
  yields_perform _ _ _ _ _ allowed fun _ => yields_done _ _ _ trivial

theorem fail_reports (fresh : Supply) (delivery : Delivery) (operationId : Uuid) (retryable : Bool)
    (reason : String) (past : List (Exchange deliveryInterface))
    (reported : retryable = true → ∃ channel message,
      ⟨.send delivery.id delivery.attemptCount channel message,
        .ok (.error { retryable := true, message := reason })⟩ ∈ past) :
    (Dispatch.fail fresh delivery operationId retryable reason).Yields Reports
      (fun _ _ => True) past := by
  unfold Dispatch.fail
  refine yields_bind _ _ _ _ past (yields_demand _ _ past) ?_
  intro later ⟨after, transition⟩ grown result
  obtain ⟨id, count, outcome, _⟩ := recordDeliveryFailure_outcome _ _ _ _ _ _ _ _ result
  apply yields_last
  intro text same
  rw [outcome] at same
  obtain ⟨retry, rfl⟩ := DeliveryAttemptOutcome.failed.inj same
  obtain ⟨channel, message, sent⟩ := reported retry
  rw [id, count]
  exact ⟨channel, message, grown sent⟩

theorem dispatchOne_reports (setup : WorkerSetup) (fresh : Supply) (delivery : Delivery)
    (past : List (Exchange deliveryInterface)) :
    (Dispatch.dispatchOne setup fresh delivery).Yields Reports (fun _ _ => True) past := by
  unfold Dispatch.dispatchOne
  split
  · apply yields_perform
    · trivial
    · intro alert
      cases alert with
      | none => exact fail_reports _ _ _ _ _ _ (by simp)
      | some alert =>
          apply yields_perform
          · trivial
          · intro consumer
            apply yields_perform
            · trivial
            · intro reply
              cases reply with
              | error error =>
                  apply fail_reports
                  intro retryable
                  refine ⟨delivery.channel, buildOutboundMessage setup.unicode alert delivery
                    (consumer.bind (·.locale)), ?_⟩
                  rw [← retryable]
                  exact List.mem_cons_self
              | ok outcome =>
                  refine yields_bind _ _ _ _ _ (yields_demand _ _ _) ?_
                  intro later ⟨after, transition⟩ grown result
                  apply yields_last
                  intro reason same
                  have sent := (recordDeliverySuccess_outcome _ _ _ _ _ _ _ result).1
                  rw [sent] at same
                  cases same
  · exact fail_reports _ _ _ _ _ _ (by simp)

theorem processBatch_reports (setup : WorkerSetup) (fresh : Supply) (batchSize : Nat)
    (past : List (Exchange deliveryInterface)) :
    (Dispatch.processBatch setup fresh batchSize).Yields Reports (fun _ _ => True) past := by
  have claim : (Dispatch.claimNext batchSize).Yields Reports (fun _ _ => True) past := by
    apply yields_perform
    · trivial
    · intro snapshot
      exact yields_ask (I := deliveryInterface) (Call.lockAndStart batchSize snapshot)
        (fun _ _ => True) WorkerError.repository _ trivial fun _ => trivial
  refine yields_bind _ _ _ _ past claim ?_
  intro later claimed _ _
  refine yields_bind _ _ _ _ later (yields_forEach _ _ later ?_) ?_
  · intro element _ now
    exact dispatchOne_reports setup _ element.1 now
  · intro last _ _ _
    exact yields_done _ _ _ trivial

end Programs

def MayRecord (jobs : Nat → Job) (pid : Nat) (past : List (Exchange deliveryInterface))
    (call : Call) : Prop :=
  (jobs pid).isDispatch → Reports past call

theorem pool_reports (deployment : Deployment) (jobs : Nat → Job) (pid : Nat) :
    (deployment.pool jobs pid).Honest (MayRecord jobs pid) (fun _ _ => True) [] := by
  by_cases dispatching : (jobs pid).isDispatch
  · cases job : jobs pid with
    | dispatch fresh batchSize =>
        simp only [Deployment.pool, job, Deployment.run]
        apply honest_mapError
        refine honest_allow _ (fun _ _ allowed _ => allowed) _ _ ?_
        have reports := processBatch_reports deployment.setup fresh batchSize []
        refine honest_post _ _ (fun _ _ _ => trivial) _ _ (yields_bind _ (fun _ _ => True) _ _ _
          reports ?_)
        intro later _ _ _
        exact yields_done _ _ _ trivial
    | matching fresh batchSize => simp [job, Job.isDispatch] at dispatching
    | webhook fresh request => simp [job, Job.isDispatch] at dispatching
    | edit edit => simp [job, Job.isDispatch] at dispatching
  · exact honest_any (fun _ _ dispatch => absurd dispatch dispatching) _ _

theorem reach_reports (deployment : Deployment) (jobs : Nat → Job) (rules : Rules deliveryMachine)
    (init : Db) (config : Pool) (reached : deployment.Reaches jobs rules init config) :
    deployment.Reaches jobs (rules.after recordedCalls (MayRecord jobs)) init config := by
  exact reach_after recordedCalls rules (MayRecord jobs) (fun _ _ _ => True) _
    (pool_reports deployment jobs) _ (told_initial _ _ init) config reached

end SafeCameroon
