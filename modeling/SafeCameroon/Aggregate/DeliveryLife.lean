import SafeCameroon.Postgres.Deliveries
import SafeCameroon.Library.Optimistic

namespace SafeCameroon.DeliveryLife

open Optimistic

/-- The part of a delivery that its transitions change. -/
structure State where
  status : DeliveryStatus
  attemptCount : Nat
  deriving DecidableEq

/-- One transition: the event it writes and the attempt it records, if any. -/
structure Entry where
  eventType : DeliveryEventType
  attempt : Option DeliveryAttemptRow

def requested : State := { status := .queued, attemptCount := 0 }

inductive Step (maxAttempts : Nat) : State → Entry → State → Prop where
  | start {before : State} (ready : before.status = .queued ∨ before.status = .retrying) :
      Step maxAttempts before ⟨.deliveryStarted, none⟩
        { status := .sending, attemptCount := before.attemptCount + 1 }
  | success {before : State} {attempt : DeliveryAttemptRow} (inFlight : before.status = .sending)
      (number : attempt.attemptNumber = before.attemptCount) (sent : attempt.outcome = .sent) :
      Step maxAttempts before ⟨.deliverySent, some attempt⟩ { before with status := .sent }
  | retry {before : State} {attempt : DeliveryAttemptRow} (inFlight : before.status = .sending)
      (number : attempt.attemptNumber = before.attemptCount) (failed : attempt.outcome = .failed)
      (remaining : before.attemptCount < maxAttempts) :
      Step maxAttempts before ⟨.deliveryRetried, some attempt⟩ { before with status := .retrying }
  | failure {before : State} {attempt : DeliveryAttemptRow} (inFlight : before.status = .sending)
      (number : attempt.attemptNumber = before.attemptCount) (failed : attempt.outcome = .failed) :
      Step maxAttempts before ⟨.deliveryFailed, some attempt⟩
        { before with status := .failedPermanently }
  | delivered {before : State} (sent : before.status = .sent) :
      Step maxAttempts before ⟨.deliveryDelivered, none⟩ { before with status := .delivered }

def replayEvent : DeliveryStatus → DeliveryEventType → Option DeliveryStatus
  | .queued, .deliveryStarted => some .sending
  | .retrying, .deliveryStarted => some .sending
  | .sending, .deliverySent => some .sent
  | .sending, .deliveryRetried => some .retrying
  | .sending, .deliveryFailed => some .failedPermanently
  | .sent, .deliveryDelivered => some .delivered
  | _, _ => none

def replay : List DeliveryEventType → Option DeliveryStatus
  | .deliveryRequested :: rest => rest.foldlM replayEvent .queued
  | _ => none

def State.finished (state : State) : Nat :=
  if state.status = .sending then state.attemptCount - 1 else state.attemptCount

def attemptsOf (log : List Entry) : List DeliveryAttemptRow := log.filterMap (·.attempt)

@[simp] theorem attemptsOf_append (log : List Entry) (entry : Entry) :
    attemptsOf (log ++ [entry]) = attemptsOf log ++ entry.attempt.toList := by
  cases h : entry.attempt <;> simp [attemptsOf, h]

structure Consistent (maxAttempts : Nat) (log : List Entry) (state : State) : Prop where
  replayed : (log.map (·.eventType)).foldlM replayEvent .queued = some state.status
  numbered : (attemptsOf log).map (·.attemptNumber) = List.range' 1 state.finished
  bounded : state.attemptCount ≤ maxAttempts
  remaining : state.status = .retrying → state.attemptCount < maxAttempts
  unstarted : state.status = .queued → state.attemptCount = 0
  started : state.status = .sending → 0 < state.attemptCount
  sent : (∃ attempt ∈ attemptsOf log, attempt.outcome = .sent) →
    state.status = .sent ∨ state.status = .delivered
  delivered : (log.map (·.eventType)).count .deliveryDelivered =
    if state.status = .delivered then 1 else 0

theorem range'_snoc (start count : Nat) :
    List.range' start (count + 1) = List.range' start count ++ [start + count] := by
  rw [← List.range'_append_1]
  rfl

theorem consistent_start (maxAttempts : Nat) : Consistent maxAttempts [] requested where
  replayed := rfl
  numbered := by simp [attemptsOf, State.finished, requested]
  bounded := Nat.zero_le _
  remaining := by simp [requested]
  unstarted := fun _ => rfl
  started := by simp [requested]
  sent := by simp [attemptsOf]
  delivered := by simp [requested]

private theorem fold_append (types : List DeliveryEventType) (type : DeliveryEventType)
    (status : DeliveryStatus) (h : types.foldlM replayEvent .queued = some status) :
    (types ++ [type]).foldlM replayEvent .queued = replayEvent status type := by
  simp [List.foldlM_append, h]

private theorem numbered_snoc (log : List Entry) (attempt : DeliveryAttemptRow) (count : Nat)
    (positive : 0 < count) (number : attempt.attemptNumber = count)
    (numbered : (attemptsOf log).map (·.attemptNumber) = List.range' 1 (count - 1)) :
    (attemptsOf log ++ [attempt]).map (·.attemptNumber) = List.range' 1 count := by
  have split : count = count - 1 + 1 := by omega
  rw [List.map_append, numbered, split, range'_snoc]
  have last : attempt.attemptNumber = 1 + (count - 1) := by omega
  simp [last]

theorem consistent_step (maxAttempts : Nat) (positive : 0 < maxAttempts) (log : List Entry)
    (before : State) (entry : Entry) (after : State) (consistent : Consistent maxAttempts log before)
    (step : Step maxAttempts before entry after) :
    Consistent maxAttempts (log ++ [entry]) after := by
  obtain ⟨replayed, numbered, bounded, remaining, unstarted, started, sent, delivered⟩ := consistent
  cases step with
  | start ready =>
      have free : before.attemptCount < maxAttempts := by
        rcases ready with queued | retrying
        · have none := unstarted queued
          omega
        · exact remaining retrying
      refine ⟨?_, ?_, ?_, by simp, by simp, by simp, ?_, ?_⟩
      · rw [List.map_append, List.map_singleton, fold_append _ _ _ replayed]
        rcases ready with status | status <;> simp [status, replayEvent]
      · rcases ready with status | status <;>
          simpa [State.finished, status] using numbered
      · exact free
      · rcases ready with status | status <;> simpa [status] using sent
      · rcases ready with status | status <;> simpa [status, List.count_append] using delivered
  | success inFlight number isSent =>
      refine ⟨?_, ?_, bounded, by simp, by simp, by simp, by simp, ?_⟩
      · rw [List.map_append, List.map_singleton, fold_append _ _ _ replayed, inFlight]
        rfl
      · simp only [attemptsOf_append, Option.toList_some]
        exact numbered_snoc log _ _ (started inFlight) number
          (by simpa [State.finished, inFlight] using numbered)
      · simpa [inFlight, List.count_append] using delivered
  | retry inFlight number failed free =>
      refine ⟨?_, ?_, bounded, fun _ => free, by simp, by simp, ?_, ?_⟩
      · rw [List.map_append, List.map_singleton, fold_append _ _ _ replayed, inFlight]
        rfl
      · simp only [attemptsOf_append, Option.toList_some]
        exact numbered_snoc log _ _ (started inFlight) number
          (by simpa [State.finished, inFlight] using numbered)
      · simpa [inFlight, failed] using sent
      · simpa [inFlight, List.count_append] using delivered
  | failure inFlight number failed =>
      refine ⟨?_, ?_, bounded, by simp, by simp, by simp, ?_, ?_⟩
      · rw [List.map_append, List.map_singleton, fold_append _ _ _ replayed, inFlight]
        rfl
      · simp only [attemptsOf_append, Option.toList_some]
        exact numbered_snoc log _ _ (started inFlight) number
          (by simpa [State.finished, inFlight] using numbered)
      · simpa [inFlight, failed] using sent
      · simpa [inFlight, List.count_append] using delivered
  | delivered isSent =>
      refine ⟨?_, ?_, bounded, by simp, by simp, by simp, by simp, ?_⟩
      · rw [List.map_append, List.map_singleton, fold_append _ _ _ replayed, isSent]
        rfl
      · simpa [State.finished, isSent] using numbered
      · simpa [isSent, List.count_append] using delivered

theorem consistent_of_replays (maxAttempts : Nat) (positive : 0 < maxAttempts) (log : List Entry)
    (state : State) (replayed : Replays (Step maxAttempts) requested log state) :
    Consistent maxAttempts log state :=
  replays_invariant _ _ _ (consistent_start maxAttempts) (consistent_step maxAttempts positive) log
    state replayed

theorem step_unqueued (maxAttempts : Nat) (before : State) (entry : Entry) (after : State)
    (step : Step maxAttempts before entry after) : after.status ≠ .queued := by
  cases step with
  | start ready => simp
  | success inFlight => simp
  | retry inFlight => simp
  | failure inFlight => simp
  | delivered sent => simp

theorem step_nonterminal (maxAttempts : Nat) (before : State) (entry : Entry) (after : State)
    (step : Step maxAttempts before entry after) :
    before.status ≠ .delivered ∧ before.status ≠ .failedPermanently := by
  cases step with
  | start ready => rcases ready with status | status <;> simp [status]
  | success inFlight => simp [inFlight]
  | retry inFlight => simp [inFlight]
  | failure inFlight => simp [inFlight]
  | delivered sent => simp [sent]

theorem step_started (maxAttempts : Nat) (before : State) (entry : Entry) (after : State)
    (step : Step maxAttempts before entry after) (started : entry.eventType = .deliveryStarted) :
    (before.status = .queued ∨ before.status = .retrying) ∧ entry.attempt = none := by
  cases step with
  | start ready => exact ⟨ready, rfl⟩
  | success inFlight => simp at started
  | retry inFlight => simp at started
  | failure inFlight => simp at started
  | delivered sent => simp at started

theorem step_attemptCount (maxAttempts : Nat) (before : State) (entry : Entry) (after : State)
    (step : Step maxAttempts before entry after) (other : entry.eventType ≠ .deliveryStarted) :
    after.attemptCount = before.attemptCount := by
  cases step with
  | start ready => exact absurd rfl other
  | success inFlight => rfl
  | retry inFlight => rfl
  | failure inFlight => rfl
  | delivered sent => rfl

end SafeCameroon.DeliveryLife
