import SafeCameroon.Domain.Case
import SafeCameroon.Library.Optimistic

namespace SafeCameroon.CaseLife

open Optimistic

/-- One event of a case and the report it links, if any. -/
structure Entry where
  eventType : CaseEventType
  report : Option ReportId
  deriving DecidableEq

/-- What may happen to a case after its creation: further evidence, or an allowed move. -/
inductive Step : CaseStatus → Entry → CaseStatus → Prop where
  | link {status : CaseStatus} (reportId : ReportId) :
      Step status ⟨.caseReportLinked, some reportId⟩ status
  | move {before after : CaseStatus} (allowed : isAllowedTransition before after = true) :
      Step before ⟨eventFor after, none⟩ after

theorem step_moves (before after : CaseStatus) (entry : Entry) (step : Step before entry after) :
    after = before ∨ isAllowedTransition before after = true := by
  cases step with
  | link reportId => exact Or.inl rfl
  | move allowed => exact Or.inr allowed

def target : CaseEventType → Option CaseStatus
  | .caseCreated | .caseReportLinked => none
  | .caseUnderReview => some .underReview
  | .caseVerified => some .verified
  | .caseActivated => some .active
  | .caseResolved => some .resolved
  | .caseCancelled => some .cancelled
  | .caseRejected => some .rejected

def moveTo (before after : CaseStatus) : Option CaseStatus :=
  if isAllowedTransition before after then some after else none

def replay (types : List CaseEventType) : Option CaseStatus :=
  (types.filterMap target).foldlM moveTo .reported

def links : CaseEventType → Bool
  | .caseCreated | .caseReportLinked => true
  | _ => false

theorem allowed_target (before after : CaseStatus) (h : isAllowedTransition before after = true) :
    target (eventFor after) = some after ∧ links (eventFor after) = false := by
  cases after with
  | reported => cases before <;> simp [isAllowedTransition] at h
  | underReview => exact ⟨rfl, rfl⟩
  | verified => exact ⟨rfl, rfl⟩
  | active => exact ⟨rfl, rfl⟩
  | resolved => exact ⟨rfl, rfl⟩
  | cancelled => exact ⟨rfl, rfl⟩
  | rejected => exact ⟨rfl, rfl⟩

/-- The log of a case with the event of its creation in front. -/
def history (first : ReportId) (log : List Entry) : List Entry := ⟨.caseCreated, some first⟩ :: log

theorem history_snoc (first : ReportId) (log : List Entry) (entry : Entry) :
    history first (log ++ [entry]) = history first log ++ [entry] := rfl

structure Consistent (log : List Entry) (status : CaseStatus) : Prop where
  replayed : replay (log.map (·.eventType)) = some status
  linking : ∀ entry ∈ log, links entry.eventType = entry.report.isSome
  uncreated : ∀ entry ∈ log, entry.eventType ≠ .caseCreated

theorem replay_snoc (types : List CaseEventType) (type : CaseEventType) (status : CaseStatus)
    (h : replay types = some status) :
    replay (types ++ [type]) = match target type with
      | none => some status
      | some after => moveTo status after := by
  rw [replay] at h
  cases moved : target type with
  | none => simp [replay, List.filterMap_append, moved, h]
  | some after => simp [replay, List.filterMap_append, moved, List.foldlM_append, h]

theorem consistent_step (log : List Entry) (before : CaseStatus) (entry : Entry) (after : CaseStatus)
    (consistent : Consistent log before) (step : Step before entry after) :
    Consistent (log ++ [entry]) after := by
  have mapped : (log ++ [entry]).map (·.eventType) = log.map (·.eventType) ++ [entry.eventType] := by
    simp
  cases step with
  | link reportId =>
      refine ⟨?_, ?_, ?_⟩
      · rw [mapped, replay_snoc _ _ _ consistent.replayed]
        rfl
      · intro other member
        rcases List.mem_append.mp member with old | new
        · exact consistent.linking other old
        · rw [List.mem_singleton.mp new]
          rfl
      · intro other member
        rcases List.mem_append.mp member with old | new
        · exact consistent.uncreated other old
        · rw [List.mem_singleton.mp new]
          simp
  | move allowed =>
      obtain ⟨goal, unlinked⟩ := allowed_target before after allowed
      refine ⟨?_, ?_, ?_⟩
      · rw [mapped, replay_snoc _ _ _ consistent.replayed, goal]
        simp [moveTo, allowed]
      · intro other member
        rcases List.mem_append.mp member with old | new
        · exact consistent.linking other old
        · rw [List.mem_singleton.mp new, unlinked]
          rfl
      · intro other member
        rcases List.mem_append.mp member with old | new
        · exact consistent.uncreated other old
        · rw [List.mem_singleton.mp new]
          intro created
          simp only at created
          rw [created] at goal
          simp [target] at goal

theorem consistent_of_replays (log : List Entry) (status : CaseStatus)
    (replayed : Replays Step .reported log status) : Consistent log status :=
  replays_invariant Step .reported Consistent ⟨rfl, by simp, by simp⟩ consistent_step log status
    replayed

theorem history_reports (first : ReportId) (log : List Entry)
    (linking : ∀ entry ∈ log, links entry.eventType = entry.report.isSome) :
    ((history first log).filter fun entry => links entry.eventType).map (·.report) =
      ((history first log).filterMap (·.report)).map some := by
  have rest : (log.filter fun entry => links entry.eventType).map (·.report) =
      (log.filterMap (·.report)).map some := by
    clear first
    induction log with
    | nil => rfl
    | cons entry log ih =>
        have own := linking entry List.mem_cons_self
        have tail := ih fun other member => linking other (List.mem_cons_of_mem _ member)
        cases report : entry.report with
        | none => simpa [report, own] using tail
        | some value => simpa [report, own] using tail
  simpa [history, links] using rest

end SafeCameroon.CaseLife
