import Mathlib.Logic.Relation
import SafeCameroon.Aggregate.CaseLedger

namespace SafeCameroon

open Table Optimistic CaseLife PostgresCaseRepository

/-- The types of the messages that name a report which their event links. -/
def linkingType (eventType : String) : Bool :=
  decide (eventType = CaseEventType.caseCreated.asDatabaseValue) ||
    decide (eventType = CaseEventType.caseReportLinked.asDatabaseValue)

structure CaseSourced (db : Db) (row : CaseRow) : Prop where
  versions : (caseEventsOf row.id db).map (·.aggregateVersion) = List.range' 1 row.aggregateVersion
  status : replay ((caseEventsOf row.id db).map (·.eventType)) = some row.status
  announced : (caseMessagesOf row.id db).map (·.eventType) =
    (caseEventsOf row.id db).map (·.eventType.asDatabaseValue)
  one_report_each : ((caseEventsOf row.id db).filter fun event => links event.eventType).length =
    (caseReportsOf row.id db).length
  reports : ((caseMessagesOf row.id db).filter fun message => linkingType message.eventType).map
      namedReport = (caseReportsOf row.id db).map fun link => some (reportJson link.reportId)

theorem linkingType_links (type : CaseEventType) :
    linkingType type.asDatabaseValue = links type := by
  cases type <;> decide

theorem map_filter_columns {α β γ δ : Type} (rows : List α) (first : α → β) (second : α → γ)
    (entries : List δ) (entryFirst : δ → β) (entrySecond : δ → γ)
    (same : rows.map (fun row => (first row, second row)) =
      entries.map fun entry => (entryFirst entry, entrySecond entry)) (keep : β → Bool) :
    (rows.filter fun row => keep (first row)).map second =
      (entries.filter fun entry => keep (entryFirst entry)).map entrySecond := by
  have both := congrArg (fun pairs : List (β × γ) =>
    (pairs.filter fun pair => keep pair.1).map Prod.snd) same
  simpa [List.filter_map, Function.comp_def] using both

theorem replay_history (first : ReportId) (log : List CaseLife.Entry) :
    replay ((history first log).map (·.eventType)) = replay (log.map (·.eventType)) := by
  have skipped : (CaseEventType.caseCreated :: log.map (·.eventType)).filterMap target =
      (log.map (·.eventType)).filterMap target := rfl
  simp only [replay, history, List.map_cons, skipped]

theorem CaseTells.sourced {db : Db} {row : CaseRow} {first : ReportId} {log : List CaseLife.Entry}
    (told : CaseTells db row first log) : CaseSourced db row := by
  have consistent := consistent_of_replays log row.status told.sound.replays
  have length : row.aggregateVersion = (history first log).length := told.sound.version_eq
  have linking : ∀ entry ∈ log, links entry.eventType = entry.report.isSome := consistent.linking
  have types : (caseEventsOf row.id db).map (·.eventType) =
      (history first log).map (·.eventType) := by
    calc
      _ = ((caseEventsOf row.id db).map fun event =>
            (event.aggregateVersion, event.eventType)).map Prod.snd := by simp
      _ = _ := by rw [told.events, caseEventColumns_types]
  have linked : ((history first log).filter fun entry => links entry.eventType).map (·.report) =
      (caseReportsOf row.id db).map fun link => some link.reportId := by
    rw [history_reports first log linking, ← told.reports, List.map_map]
    rfl
  refine ⟨?_, ?_, ?_, ?_, ?_⟩
  · calc
      _ = ((caseEventsOf row.id db).map fun event =>
            (event.aggregateVersion, event.eventType)).map Prod.fst := by simp
      _ = _ := by rw [told.events, caseEventColumns_versions, length]
  · rw [types, replay_history]
    exact consistent.replayed
  · have messages := congrArg (List.map Prod.fst) told.messages
    have events := congrArg (List.map CaseEventType.asDatabaseValue) types
    simp only [List.map_map, caseMessageColumns, Function.comp_def] at messages events
    rw [messages, events]
  · have counted := congrArg List.length linked
    have kept := congrArg (fun types => (types.filter links).length) types
    simp only [List.filter_map, List.length_map, Function.comp_def] at counted kept
    rw [kept, counted]
  · have columns := map_filter_columns _ _ _ (history first log)
      (fun entry => entry.eventType.asDatabaseValue) (fun entry => entry.report.map reportJson)
      told.messages linkingType
    have named := congrArg (List.map (Option.map reportJson)) linked
    simp only [List.map_map, Function.comp_def, Option.map_some] at named
    rw [columns, ← named]
    simp only [linkingType_links]

theorem PostgresCaseRepository.reconstitute_ok (row : CaseRow) (reportIds : List ReportId) (c : Case)
    (built : reconstitute row reportIds = .ok c) :
    c = { id := row.id, incidentType := row.incidentType, status := row.status, reportIds
          version := row.aggregateVersion } := by
  simp only [reconstitute, IncidentType.from_as, CaseStatus.from_as, expect_some, bind_ok, pure,
    Except.pure, Except.ok.injEq] at built
  obtain ⟨_, rfl, _, rfl, rfl⟩ := built
  rfl

theorem caseMoves_link (row : CaseRow) (reportIds : List ReportId) (before c : Case)
    (link : CaseReportLink) (built : reconstitute row reportIds = .ok before)
    (domain : before.linkReport link.event.id link.reportId = .ok (c, link.event)) :
    CaseMoves row c none (some link.reportId) link.event (caseReportLinkedEventPayload c.id link) := by
  have read := reconstitute_ok row reportIds before built
  subst read
  simp only [Case.linkReport] at domain
  split at domain
  · simp at domain
  · simp only [Except.ok.injEq, Prod.mk.injEq] at domain
    obtain ⟨rfl, event⟩ := domain
    rw [← event]
    exact ⟨rfl, rfl, rfl, rfl, .link link.reportId, by
      simp [caseReportLinkedEventPayload, Json.get, reportJson]⟩

theorem caseMoves_review (row : CaseRow) (reportIds : List ReportId) (before c : Case)
    (review : CaseReview) (built : reconstitute row reportIds = .ok before)
    (domain : before.transitionTo review.event.id c.status = .ok (c, review.event)) :
    CaseMoves row c (some c.status) none review.event (caseStatusChangedEventPayload c review) := by
  have read := reconstitute_ok row reportIds before built
  subst read
  simp only [Case.transitionTo] at domain
  split at domain
  · rename_i allowed
    simp only [Except.ok.injEq, Prod.mk.injEq] at domain
    obtain ⟨changed, event⟩ := domain
    have facts : c.id = row.id ∧ c.version = row.aggregateVersion + 1 := by
      rw [← changed]
      exact ⟨rfl, rfl⟩
    rw [← event]
    refine ⟨facts.1, facts.2, rfl, rfl, .move allowed, ?_⟩
    simp [caseStatusChangedEventPayload, Json.get]
  · simp at domain

/-- Every case of the earlier tables is still there, and its status moved along allowed edges. -/
def CasesEvolve (db after : Db) : Prop :=
  ∀ row ∈ db.cases, ∃ later ∈ after.cases, later.id = row.id ∧
    Relation.ReflTransGen (fun before after => isAllowedTransition before after = true) row.status
      later.status

theorem CasesEvolve.trans {db middle after : Db} (first : CasesEvolve db middle)
    (second : CasesEvolve middle after) : CasesEvolve db after := by
  intro row member
  obtain ⟨between, inMiddle, same, path⟩ := first row member
  obtain ⟨later, inAfter, equal, rest⟩ := second between inMiddle
  exact ⟨later, inAfter, equal.trans same, path.trans rest⟩

theorem CasesEvolve.appended {db after : Db} (added : List CaseRow)
    (cases : after.cases = db.cases ++ added) : CasesEvolve db after := by
  intro row member
  refine ⟨row, ?_, rfl, .refl⟩
  rw [cases]
  exact List.mem_append_left _ member

theorem CasesEvolve.advanced {now : Timestamp} {c : Case} {newStatus : Option CaseStatus}
    {link : Option ReportId} {event : CaseEvent} {actor : Actor} {requestId : Uuid} {payload : Json}
    {db after : Db}
    (distinct : (db.cases.map (·.id)).Nodup) {read : CaseRow} (stale : CaseStale db read)
    (moves : CaseMoves read c newStatus link event payload)
    (effect : PostgresCaseRepository.Advanced now c newStatus link event actor requestId payload db
      after) :
    CasesEvolve db after := by
  intro row member
  have rows := advanced_rows effect distinct
  by_cases differs : row.id = c.id
  · obtain ⟨current, inTable, equal, older⟩ := effect.matched
    obtain rfl := eq_of_key (·.id) _ distinct current row inTable member
      (equal.trans differs.symm)
    have atCurrent := stale.current distinct current inTable (equal.trans moves.id)
    have version : read.aggregateVersion = current.aggregateVersion := by
      have written := moves.version
      omega
    have status : read.status = current.status := atCurrent.2.2 version
    have step := moves.step
    rw [status] at step
    refine ⟨advancedCaseRow newStatus c.version current,
      (rows _).mpr (Or.inr ⟨current, inTable, equal, older, rfl⟩), rfl, ?_⟩
    rcases step_moves _ _ _ step with same | allowed
    · rw [← same]
      exact .refl
    · exact .single allowed
  · exact ⟨row, (rows row).mpr (Or.inl ⟨member, differs⟩), rfl, .refl⟩

end SafeCameroon
