import SafeCameroon.Aggregate.CaseEffects
import SafeCameroon.Aggregate.CaseLife

namespace SafeCameroon

open Table Optimistic CaseLife PostgresCaseRepository

def CaseRow.record (row : CaseRow) (log : List CaseLife.Entry) : Record CaseStatus CaseLife.Entry :=
  { version := row.aggregateVersion, state := row.status, log }

def caseEventsOf (id : CaseId) (db : Db) : List CaseEventRow :=
  db.caseEvents.filter fun row => row.caseId = id

def caseReportsOf (id : CaseId) (db : Db) : List CaseReportRow :=
  db.caseReports.filter fun row => row.caseId = id

def caseMessagesOf (id : CaseId) (db : Db) : List OutboxRow :=
  db.outboxEvents.filter fun row =>
    decide (row.aggregateType = "CASE") && decide (row.aggregateId = id.uuid)

def namedReport (row : OutboxRow) : Option Json := row.payload.get "report_id"

def reportJson (reportId : ReportId) : Json := .uuid reportId.uuid

def caseEventColumns (entries : List CaseLife.Entry) : List (Nat × CaseEventType) :=
  entries.zipIdx.map fun (entry, index) => (index + 1, entry.eventType)

@[simp] theorem caseEventColumns_append (entries : List CaseLife.Entry) (entry : CaseLife.Entry) :
    caseEventColumns (entries ++ [entry]) =
      caseEventColumns entries ++ [(entries.length + 1, entry.eventType)] := by
  simp [caseEventColumns, List.zipIdx_append]

theorem caseEventColumns_versions (entries : List CaseLife.Entry) :
    (caseEventColumns entries).map Prod.fst = List.range' 1 entries.length := by
  induction entries using List.reverseRecOn with
  | nil => rfl
  | append_singleton entries entry ih =>
      rw [caseEventColumns_append, List.map_append, ih, List.length_append, List.length_singleton,
        List.range'_concat]
      simp [Nat.add_comm]

theorem caseEventColumns_types (entries : List CaseLife.Entry) :
    (caseEventColumns entries).map Prod.snd = entries.map (·.eventType) := by
  induction entries using List.reverseRecOn with
  | nil => rfl
  | append_singleton entries entry ih =>
      rw [caseEventColumns_append, List.map_append, ih, List.map_append]
      rfl

/-- The type and named report of the messages of a history. -/
def caseMessageColumns (entries : List CaseLife.Entry) : List (String × Option Json) :=
  entries.map fun entry => (entry.eventType.asDatabaseValue, entry.report.map reportJson)

/-- The tables tell one story of a case: its row, its events, its reports and its messages come from
one history. -/
structure CaseTells (db : Db) (row : CaseRow) (first : ReportId) (log : List CaseLife.Entry) : Prop where
  sound : Sound Step .reported (row.record log)
  events : (caseEventsOf row.id db).map (fun event => (event.aggregateVersion, event.eventType)) =
    caseEventColumns (history first log)
  reports : (caseReportsOf row.id db).map (·.reportId) = (history first log).filterMap (·.report)
  messages : (caseMessagesOf row.id db).map (fun message => (message.eventType, namedReport message)) =
    caseMessageColumns (history first log)

/-- The tables of the cases agree with each other. -/
structure CaseLedger (db : Db) : Prop where
  distinct : (db.cases.map (·.id)).Nodup
  once : (db.caseReports.map (·.reportId)).Nodup
  events_known : ∀ event ∈ db.caseEvents, event.caseId ∈ db.cases.map (·.id)
  reports_known : ∀ link ∈ db.caseReports, link.caseId ∈ db.cases.map (·.id)
  messages_known : ∀ message ∈ db.outboxEvents, message.aggregateType = "CASE" →
    ∃ id ∈ db.cases.map (·.id), message.aggregateId = id.uuid
  tells : ∀ row ∈ db.cases, ∃ first log, CaseTells db row first log

/-- A case as somebody read it: the stored one has moved on since, or is still the same. -/
def CaseStale (db : Db) (row : CaseRow) : Prop :=
  ∃ stored ∈ db.cases, stored.id = row.id ∧ stored.incidentType = row.incidentType ∧
    Behind row.aggregateVersion row.status (stored.record [])

theorem CaseId.eq_of_uuid (first second : CaseId) (same : first.uuid = second.uuid) :
    first = second := by
  cases first
  cases second
  exact congrArg CaseId.mk same

/-- Writes that leave the three tables and the messages of the cases alone keep the ledger. -/
theorem CaseLedger.frame {db after : Db} (ledger : CaseLedger db) (cases : after.cases = db.cases)
    (links : after.caseReports = db.caseReports) (events : after.caseEvents = db.caseEvents)
    (messages : ∃ added, after.outboxEvents = db.outboxEvents ++ added ∧
      ∀ message ∈ added, message.aggregateType ≠ "CASE") : CaseLedger after := by
  obtain ⟨added, appended, foreign⟩ := messages
  refine ⟨cases ▸ ledger.distinct, links ▸ ledger.once, ?_, ?_, ?_, ?_⟩
  · rw [cases, events]
    exact ledger.events_known
  · rw [cases, links]
    exact ledger.reports_known
  · intro message member type
    rw [cases]
    rw [appended, List.mem_append] at member
    rcases member with old | new
    · exact ledger.messages_known message old type
    · exact absurd type (foreign message new)
  · intro row member
    rw [cases] at member
    obtain ⟨first, log, told⟩ := ledger.tells row member
    refine ⟨first, log, told.sound, ?_, ?_, ?_⟩
    · rw [caseEventsOf, events]
      exact told.events
    · rw [caseReportsOf, links]
      exact told.reports
    · have same : caseMessagesOf row.id after = caseMessagesOf row.id db := by
        have none : added.filter (fun message => decide (message.aggregateType = "CASE") &&
            decide (message.aggregateId = row.id.uuid)) = [] := by
          rw [List.filter_eq_nil_iff]
          intro message new
          simp [foreign message new]
        rw [caseMessagesOf, appended, List.filter_append, none, List.append_nil, caseMessagesOf]
      rw [same]
      exact told.messages

theorem caseLedger_empty (db : Db) (cases : db.cases = []) (links : db.caseReports = [])
    (events : db.caseEvents = []) (messages : ∀ message ∈ db.outboxEvents,
      message.aggregateType ≠ "CASE") : CaseLedger db where
  distinct := by simp [cases]
  once := by simp [links]
  events_known := by simp [events]
  reports_known := by simp [links]
  messages_known := fun message member type => absurd type (messages message member)
  tells := by simp [cases]

theorem CaseLedger.unknown {db : Db} (ledger : CaseLedger db) (id : CaseId)
    (unused : id ∉ db.cases.map (·.id)) :
    caseEventsOf id db = [] ∧ caseReportsOf id db = [] ∧ caseMessagesOf id db = [] := by
  refine ⟨?_, ?_, ?_⟩
  · rw [caseEventsOf, List.filter_eq_nil_iff]
    intro event inTable same
    exact unused (of_decide_eq_true same ▸ ledger.events_known event inTable)
  · rw [caseReportsOf, List.filter_eq_nil_iff]
    intro link inTable same
    exact unused (of_decide_eq_true same ▸ ledger.reports_known link inTable)
  · rw [caseMessagesOf, List.filter_eq_nil_iff]
    intro message inTable same
    simp only [Bool.and_eq_true, decide_eq_true_eq] at same
    obtain ⟨other, known, uuid⟩ := ledger.messages_known message inTable same.1
    exact unused (CaseId.eq_of_uuid _ _ (uuid.symm.trans same.2) ▸ known)

section Creation

variable {now : Timestamp} {creation : CaseCreation} {reportId : ReportId} {db after : Db}

theorem caseCreatedEventPayload_names (creation : CaseCreation) (reportId : ReportId)
    (first : creation.case.reportIds.head? = some reportId) :
    (caseCreatedEventPayload creation).get "report_id" = some (reportJson reportId) := by
  simp [caseCreatedEventPayload, Json.get, Json.optional, first, reportJson]

theorem CaseLedger.created (ledger : CaseLedger db)
    (effect : Created now creation reportId db after)
    (domain : Case.create creation.case.id creation.event.id creation.case.incidentType reportId =
      (creation.case, creation.event)) : CaseLedger after := by
  obtain ⟨_, eventEq⟩ := Prod.mk.inj domain
  have subject : creation.event.caseId = creation.case.id := by rw [← eventEq]; rfl
  have type : creation.event.eventType = .caseCreated := by rw [← eventEq]; rfl
  have number : creation.event.aggregateVersion = 1 := by rw [← eventEq]; rfl
  have status : creation.case.status = .reported := by
    rw [← (Prod.mk.inj domain).1]
  have version : creation.case.version = 1 := by
    rw [← (Prod.mk.inj domain).1]
  have fresh : ∀ row ∈ db.cases, row.id ≠ creation.case.id := by
    intro row member same
    exact effect.unused (same ▸ List.mem_map_of_mem member)
  refine ⟨?_, ?_, ?_, ?_, ?_, ?_⟩
  · rw [effect.cases, List.map_append]
    exact nodup_snoc _ _ ledger.distinct effect.unused
  · rw [effect.links, List.map_append]
    exact nodup_snoc _ _ ledger.once effect.unlinked
  · intro event member
    rw [effect.cases, List.map_append]
    rw [effect.events, List.mem_append, List.mem_singleton] at member
    rcases member with old | rfl
    · exact List.mem_append_left _ (ledger.events_known event old)
    · exact List.mem_append_right _ (by simp [caseRow, caseEventRow, subject])
  · intro link member
    rw [effect.cases, List.map_append]
    rw [effect.links, List.mem_append, List.mem_singleton] at member
    rcases member with old | rfl
    · exact List.mem_append_left _ (ledger.reports_known link old)
    · exact List.mem_append_right _ (by simp [caseRow])
  · intro message member isCase
    rw [effect.cases, List.map_append]
    rw [effect.outbox, List.mem_append, List.mem_singleton] at member
    rcases member with old | rfl
    · obtain ⟨id, known, same⟩ := ledger.messages_known message old isCase
      exact ⟨id, List.mem_append_left _ known, same⟩
    · exact ⟨creation.case.id, List.mem_append_right _ (by simp [caseRow]), rfl⟩
  · intro row member
    rw [effect.cases, List.mem_append, List.mem_singleton] at member
    rcases member with old | rfl
    · obtain ⟨first, log, told⟩ := ledger.tells row old
      have differs : creation.case.id ≠ row.id := fun same => fresh row old same.symm
      have foreign : creation.case.id.uuid ≠ row.id.uuid := fun same =>
        differs (CaseId.eq_of_uuid _ _ same)
      refine ⟨first, log, told.sound, ?_, ?_, ?_⟩
      · have same : caseEventsOf row.id after = caseEventsOf row.id db := by
          simp [caseEventsOf, effect.events, List.filter_append, caseEventRow, subject, differs]
        rw [same]
        exact told.events
      · have same : caseReportsOf row.id after = caseReportsOf row.id db := by
          simp [caseReportsOf, effect.links, List.filter_append, differs]
        rw [same]
        exact told.reports
      · have same : caseMessagesOf row.id after = caseMessagesOf row.id db := by
          simp [caseMessagesOf, effect.outbox, List.filter_append, outboxRow, foreign]
        rw [same]
        exact told.messages
    · obtain ⟨noEvents, noReports, noMessages⟩ := ledger.unknown _ effect.unused
      have named := caseCreatedEventPayload_names creation reportId effect.first
      refine ⟨reportId, [], ?_, ?_, ?_, ?_⟩
      · have start := sound_create Step CaseStatus.reported
        simpa only [CaseRow.record, caseRow, version, status] using start
      · have events : caseEventsOf creation.case.id after =
            caseEventsOf creation.case.id db ++ [caseEventRow creation.event creation.actor] := by
          simp [caseEventsOf, effect.events, List.filter_append, caseEventRow, subject]
        have columns : (caseEventsOf creation.case.id after).map
            (fun event => (event.aggregateVersion, event.eventType)) = [(1, .caseCreated)] := by
          rw [events, noEvents]
          simp [caseEventRow, type, number]
        exact columns
      · have reports : caseReportsOf creation.case.id after = caseReportsOf creation.case.id db ++
            [{ caseId := creation.case.id, reportId, linkedAt := now }] := by
          simp [caseReportsOf, effect.links, List.filter_append]
        have column : (caseReportsOf creation.case.id after).map (·.reportId) = [reportId] := by
          rw [reports, noReports]
          rfl
        exact column
      · have messages : caseMessagesOf creation.case.id after =
            caseMessagesOf creation.case.id db ++
              [outboxRow now "CASE" creation.outboxEventId creation.case.id.uuid
                creation.event.eventType.asDatabaseValue (caseCreatedEventPayload creation)] := by
          simp [caseMessagesOf, effect.outbox, List.filter_append, outboxRow]
        have columns : (caseMessagesOf creation.case.id after).map
            (fun message => (message.eventType, namedReport message)) =
              [(CaseEventType.caseCreated.asDatabaseValue, some (reportJson reportId))] := by
          rw [messages, noMessages]
          simp [outboxRow, namedReport, named, type]
        exact columns

end Creation

section Change

variable {now : Timestamp} {c : Case} {newStatus : Option CaseStatus} {link : Option ReportId}
  {event : CaseEvent} {actor : Actor} {requestId : Uuid} {payload : Json} {db after : Db}

theorem advanced_rows
    (effect : PostgresCaseRepository.Advanced now c newStatus link event actor requestId payload db
      after)
    (distinct : (db.cases.map (·.id)).Nodup) (row : CaseRow) :
    row ∈ after.cases ↔ (row ∈ db.cases ∧ row.id ≠ c.id) ∨
      ∃ before ∈ db.cases, before.id = c.id ∧ before.aggregateVersion + 1 = c.version ∧
        row = advancedCaseRow newStatus c.version before := by
  obtain ⟨current, member, same, version⟩ := effect.matched
  rw [effect.cases]
  simp only [advancedCases, mem_updateWhere, Bool.and_eq_true, decide_eq_true_eq]
  constructor
  · rintro ⟨before, inTable, ⟨selected, rfl⟩ | ⟨skipped, rfl⟩⟩
    · exact Or.inr ⟨before, inTable, selected.1, selected.2, rfl⟩
    · refine Or.inl ⟨inTable, fun equal => ?_⟩
      have identical := eq_of_key (·.id) _ distinct row current inTable member
        (equal.trans same.symm)
      subst identical
      simp [same, version] at skipped
  · rintro (⟨inTable, differs⟩ | ⟨before, inTable, equal, older, rfl⟩)
    · exact ⟨row, inTable, Or.inr ⟨by simp [differs], rfl⟩⟩
    · exact ⟨before, inTable, Or.inl ⟨⟨equal, older⟩, rfl⟩⟩

theorem advanced_ids
    (effect : PostgresCaseRepository.Advanced now c newStatus link event actor requestId payload db
      after) :
    after.cases.map (·.id) = db.cases.map (·.id) := by
  rw [effect.cases]
  exact map_key_updateWhere _ _ _ _ fun _ => rfl

/-- One domain operation on a case that was read as the row says, with what it writes. -/
structure CaseMoves (read : CaseRow) (c : Case) (newStatus : Option CaseStatus)
    (link : Option ReportId) (event : CaseEvent) (payload : Json) : Prop where
  id : c.id = read.id
  version : c.version = read.aggregateVersion + 1
  subject : event.caseId = read.id
  numbered : event.aggregateVersion = read.aggregateVersion + 1
  step : Step read.status ⟨event.eventType, link⟩ (newStatus.getD read.status)
  names : payload.get "report_id" = link.map reportJson

theorem CaseStale.current {read : CaseRow} (stale : CaseStale db read)
    (distinct : (db.cases.map (·.id)).Nodup) (row : CaseRow) (member : row ∈ db.cases)
    (same : row.id = read.id) :
    row.incidentType = read.incidentType ∧
      Behind read.aggregateVersion read.status (row.record []) := by
  obtain ⟨stored, inTable, equal, type, behind⟩ := stale
  obtain rfl := eq_of_key (·.id) _ distinct stored row inTable member (equal.trans same.symm)
  exact ⟨type, behind⟩

theorem CaseLedger.advanced (ledger : CaseLedger db) {read : CaseRow} (stale : CaseStale db read)
    (moves : CaseMoves read c newStatus link event payload)
    (effect : PostgresCaseRepository.Advanced now c newStatus link event actor requestId payload db
      after) :
    CaseLedger after := by
  have rows := advanced_rows effect ledger.distinct
  have subject : event.caseId = c.id := moves.subject.trans moves.id.symm
  have known : c.id ∈ db.cases.map (·.id) := by
    obtain ⟨current, inTable, same, _⟩ := effect.matched
    exact same ▸ List.mem_map_of_mem inTable
  obtain ⟨outboxEventId, sent⟩ := effect.outbox
  refine ⟨?_, ?_, ?_, ?_, ?_, ?_⟩
  · rw [advanced_ids effect]
    exact ledger.distinct
  · rw [effect.links]
    cases linked : link with
    | none => simpa using ledger.once
    | some reportId =>
        have unlinked := effect.unlinked reportId (by rw [linked]; rfl)
        simpa using nodup_snoc _ _ ledger.once unlinked
  · intro recorded member
    rw [advanced_ids effect]
    rw [effect.events, List.mem_append, List.mem_singleton] at member
    rcases member with old | rfl
    · exact ledger.events_known recorded old
    · simpa only [caseEventRow, subject] using known
  · intro recorded member
    rw [advanced_ids effect]
    rw [effect.links, List.mem_append] at member
    rcases member with old | new
    · exact ledger.reports_known recorded old
    · obtain ⟨reportId, _, rfl⟩ := List.mem_map.mp new
      exact known
  · intro message member isCase
    rw [advanced_ids effect]
    rw [sent, List.mem_append, List.mem_singleton] at member
    rcases member with old | rfl
    · exact ledger.messages_known message old isCase
    · exact ⟨c.id, known, rfl⟩
  · intro row member
    rcases (rows row).mp member with ⟨old, differs⟩ | ⟨current, inTable, same, older, rfl⟩
    · obtain ⟨first, log, told⟩ := ledger.tells row old
      have foreign : c.id.uuid ≠ row.id.uuid := fun equal =>
        differs (CaseId.eq_of_uuid _ _ equal.symm)
      refine ⟨first, log, told.sound, ?_, ?_, ?_⟩
      · have same : caseEventsOf row.id after = caseEventsOf row.id db := by
          simp [caseEventsOf, effect.events, List.filter_append, caseEventRow, subject,
            Ne.symm differs]
        rw [same]
        exact told.events
      · have same : caseReportsOf row.id after = caseReportsOf row.id db := by
          simp [caseReportsOf, effect.links, List.filter_append, List.filter_map, Function.comp_def,
            Ne.symm differs]
        rw [same]
        exact told.reports
      · have same : caseMessagesOf row.id after = caseMessagesOf row.id db := by
          simp [caseMessagesOf, sent, List.filter_append, outboxRow, foreign]
        rw [same]
        exact told.messages
    · obtain ⟨first, log, told⟩ := ledger.tells current inTable
      have atCurrent := stale.current ledger.distinct current inTable (same.trans moves.id)
      have version : current.aggregateVersion = read.aggregateVersion := by
        have written := moves.version
        omega
      have status : current.status = read.status := (atCurrent.2.2 version.symm).symm
      have written := sound_write Step .reported (current.record log) read.aggregateVersion
        read.status (newStatus.getD read.status) ⟨event.eventType, link⟩ told.sound atCurrent.2
        moves.step
      have length : current.aggregateVersion = log.length + 1 := told.sound.version_eq
      refine ⟨first, log ++ [⟨event.eventType, link⟩], ?_, ?_, ?_, ?_⟩
      · have current_version : (current.record log).version + 1 = read.aggregateVersion + 1 := by
          simp only [CaseRow.record]
          omega
        simp only [Record.write, current_version, if_true] at written
        simpa only [CaseRow.record, advancedCaseRow, status, moves.version] using written
      · have events : caseEventsOf current.id after =
            caseEventsOf current.id db ++ [caseEventRow event actor] := by
          simp [caseEventsOf, effect.events, List.filter_append, caseEventRow, subject, same]
        have last : event.aggregateVersion = (history first log).length + 1 := by
          have numbered := moves.numbered
          simp only [history, List.length_cons]
          omega
        have columns : (caseEventsOf current.id after).map
            (fun event => (event.aggregateVersion, event.eventType)) =
              caseEventColumns (history first (log ++ [⟨event.eventType, link⟩])) := by
          rw [events, List.map_append, told.events, history_snoc, caseEventColumns_append, ← last]
          rfl
        exact columns
      · have reports : caseReportsOf current.id after = caseReportsOf current.id db ++
            link.toList.map fun reportId => { caseId := c.id, reportId, linkedAt := now } := by
          cases link <;> simp [caseReportsOf, effect.links, List.filter_append, same]
        have column : (caseReportsOf current.id after).map (·.reportId) =
            (history first (log ++ [⟨event.eventType, link⟩])).filterMap (·.report) := by
          rw [reports, List.map_append, told.reports, history_snoc, List.filterMap_append]
          cases link <;> rfl
        exact column
      · have messages : caseMessagesOf current.id after = caseMessagesOf current.id db ++
            [outboxRow now "CASE" outboxEventId c.id.uuid event.eventType.asDatabaseValue
              payload] := by
          simp [caseMessagesOf, sent, List.filter_append, outboxRow, same]
        have columns : (caseMessagesOf current.id after).map
            (fun message => (message.eventType, namedReport message)) =
              caseMessageColumns (history first (log ++ [⟨event.eventType, link⟩])) := by
          rw [messages, List.map_append, told.messages, history_snoc]
          simp [caseMessageColumns, outboxRow, namedReport, moves.names]
        exact columns

theorem CaseStale.advanced {read : CaseRow} (stale : CaseStale db read)
    (distinct : (db.cases.map (·.id)).Nodup)
    (effect : PostgresCaseRepository.Advanced now c newStatus link event actor requestId payload db
      after) :
    CaseStale after read := by
  obtain ⟨row, member, same, type, behind⟩ := stale
  by_cases differs : row.id = c.id
  · obtain ⟨current, inTable, equal, older⟩ := effect.matched
    obtain rfl := eq_of_key (·.id) _ distinct row current member inTable
      (differs.trans equal.symm)
    refine ⟨advancedCaseRow newStatus c.version row,
      (advanced_rows effect distinct _).mpr (Or.inr ⟨row, member, equal, older, rfl⟩), same, type, ?_⟩
    have written := behind_write (row.record []) read.aggregateVersion c.version read.status
      (newStatus.getD row.status) ⟨event.eventType, link⟩ behind
    have current_version : (row.record []).version + 1 = c.version := older
    simp only [Record.write, current_version, if_true] at written
    exact ⟨written.1, written.2⟩
  · exact ⟨row, (advanced_rows effect distinct row).mpr (Or.inl ⟨member, differs⟩), same, type,
      behind⟩

end Change

theorem CaseStale.appended {db after : Db} {read : CaseRow} (stale : CaseStale db read)
    (added : List CaseRow) (cases : after.cases = db.cases ++ added) : CaseStale after read := by
  obtain ⟨row, member, facts⟩ := stale
  refine ⟨row, ?_, facts⟩
  rw [cases]
  exact List.mem_append_left _ member

end SafeCameroon
