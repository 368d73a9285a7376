import SafeCameroon.Aggregate.CaseLedger
import SafeCameroon.Incidents.CaseRuns

namespace SafeCameroon.Incidents

open Table Process

/-- A report is linked exactly when its status says so. -/
structure ReportsAgree (db : Db) : Prop where
  distinct : (db.reports.map (·.id)).Nodup
  known : ∀ link ∈ db.caseReports, link.reportId ∈ db.reports.map (·.id)
  agree : ∀ row ∈ db.reports,
    row.id ∈ db.caseReports.map (·.reportId) ↔ row.status = .linkedToCase
  unclosed : ∀ row ∈ db.reports, row.status ≠ .closed

/-- Every report of the earlier tables is still there, and its status is no earlier one. -/
def ReportsAdvance (db after : Db) : Prop :=
  ∀ row ∈ db.reports, ∃ later ∈ after.reports, later.id = row.id ∧
    row.status.rank ≤ later.status.rank

theorem ReportsAdvance.trans {db middle after : Db} (first : ReportsAdvance db middle)
    (second : ReportsAdvance middle after) : ReportsAdvance db after := by
  intro row member
  obtain ⟨between, inMiddle, same, older⟩ := first row member
  obtain ⟨later, inAfter, equal, newer⟩ := second between inMiddle
  exact ⟨later, inAfter, equal.trans same, Nat.le_trans older newer⟩

structure ReportsKept (db after : Db) : Prop where
  agree : ReportsAgree after
  advance : ReportsAdvance db after

theorem ReportsKept.untouched {db after : Db} (agree : ReportsAgree db)
    (reports : after.reports = db.reports) (links : after.caseReports = db.caseReports) :
    ReportsKept db after := by
  refine ⟨⟨?_, ?_, ?_, ?_⟩, ?_⟩
  · rw [reports]
    exact agree.distinct
  · rw [reports, links]
    exact agree.known
  · rw [reports, links]
    exact agree.agree
  · rw [reports]
    exact agree.unclosed
  · intro row member
    exact ⟨row, reports ▸ member, rfl, Nat.le_refl _⟩

theorem ReportsKept.submitted {db after : Db} (agree : ReportsAgree db) (row : ReportRow)
    (unused : row.id ∉ db.reports.map (·.id)) (received : row.status = .received)
    (reports : after.reports = db.reports ++ [row]) (links : after.caseReports = db.caseReports) :
    ReportsKept db after := by
  have unlinked : row.id ∉ db.caseReports.map (·.reportId) := by
    intro member
    obtain ⟨link, inTable, same⟩ := List.mem_map.mp member
    exact unused (same ▸ agree.known link inTable)
  refine ⟨⟨?_, ?_, ?_, ?_⟩, ?_⟩
  · rw [reports, List.map_append]
    exact nodup_snoc _ _ agree.distinct unused
  · intro link member
    rw [links] at member
    rw [reports, List.map_append]
    exact List.mem_append_left _ (agree.known link member)
  · intro other member
    rw [links]
    rw [reports, List.mem_append, List.mem_singleton] at member
    rcases member with old | rfl
    · exact agree.agree other old
    · simp only [received, reduceCtorEq, iff_false]
      exact unlinked
  · intro other member
    rw [reports, List.mem_append, List.mem_singleton] at member
    rcases member with old | rfl
    · exact agree.unclosed other old
    · simp [received]
  · intro other member
    exact ⟨other, by rw [reports]; exact List.mem_append_left _ member, rfl, Nat.le_refl _⟩

theorem ReportsKept.linked {db after : Db} (agree : ReportsAgree db) (link : CaseReportRow)
    (reported : link.reportId ∈ db.reports.map (·.id))
    (reports : after.reports = markedReports link.reportId db.reports)
    (links : after.caseReports = db.caseReports ++ [link]) : ReportsKept db after := by
  have ids : after.reports.map (·.id) = db.reports.map (·.id) := by
    rw [reports]
    exact map_key_updateWhere _ _ _ _ fun _ => rfl
  have rows : ∀ row, row ∈ after.reports ↔ ∃ before ∈ db.reports,
      (before.id = link.reportId ∧ row = { before with status := .linkedToCase }) ∨
        (before.id ≠ link.reportId ∧ row = before) := by
    intro row
    rw [reports]
    simp only [markedReports, mem_updateWhere, decide_eq_true_eq, decide_eq_false_iff_not]
  refine ⟨⟨?_, ?_, ?_, ?_⟩, ?_⟩
  · rw [ids]
    exact agree.distinct
  · intro other member
    rw [ids]
    rw [links, List.mem_append, List.mem_singleton] at member
    rcases member with old | rfl
    · exact agree.known other old
    · exact reported
  · intro row member
    rw [links, List.map_append, List.mem_append]
    rcases (rows row).mp member with ⟨before, inTable, ⟨same, rfl⟩ | ⟨differs, rfl⟩⟩
    · simp [same]
    · have unlinkedHere : row.id ∉ [link].map (·.reportId) := by simpa using differs
      simp only [unlinkedHere, or_false]
      exact agree.agree row inTable
  · intro row member
    rcases (rows row).mp member with ⟨before, inTable, ⟨_, rfl⟩ | ⟨_, rfl⟩⟩
    · simp
    · exact agree.unclosed row inTable
  · intro row member
    by_cases same : row.id = link.reportId
    · refine ⟨{ row with status := .linkedToCase }, (rows _).mpr ⟨row, member, Or.inl ⟨same, rfl⟩⟩,
        rfl, ?_⟩
      have unclosed := agree.unclosed row member
      cases status : row.status with
      | closed => exact absurd status unclosed
      | received => simp [ReportStatus.rank]
      | underReview => simp [ReportStatus.rank]
      | linkedToCase => exact Nat.le_refl _
    · exact ⟨row, (rows row).mpr ⟨row, member, Or.inr ⟨same, rfl⟩⟩, rfl, Nat.le_refl _⟩

theorem ReportsKept.marked {db after : Db} (agree : ReportsAgree db) (id : ReportId)
    (reports : after.reports = updateWhere
      (fun row => decide (row.id = id) && decide (row.status = .received))
      (fun row => { row with status := .underReview }) db.reports)
    (links : after.caseReports = db.caseReports) : ReportsKept db after := by
  have ids : after.reports.map (·.id) = db.reports.map (·.id) := by
    rw [reports]
    exact map_key_updateWhere _ _ _ _ fun _ => rfl
  have rows : ∀ row, row ∈ after.reports ↔ ∃ before ∈ db.reports,
      (before.id = id ∧ before.status = .received ∧
        row = { before with status := .underReview }) ∨
        (¬(before.id = id ∧ before.status = .received) ∧ row = before) := by
    intro row
    rw [reports]
    simp only [mem_updateWhere, Bool.and_eq_true, decide_eq_true_eq, Bool.and_eq_false_iff,
      decide_eq_false_iff_not, not_and_or, and_assoc]
  refine ⟨⟨?_, ?_, ?_, ?_⟩, ?_⟩
  · rw [ids]
    exact agree.distinct
  · rw [ids, links]
    exact agree.known
  · intro row member
    rw [links]
    rcases (rows row).mp member with ⟨before, inTable, ⟨_, received, rfl⟩ | ⟨_, rfl⟩⟩
    · have unlinked := (agree.agree before inTable).not.mpr (by simp [received])
      simpa using unlinked
    · exact agree.agree row inTable
  · intro row member
    rcases (rows row).mp member with ⟨before, inTable, ⟨_, _, rfl⟩ | ⟨_, rfl⟩⟩
    · simp
    · exact agree.unclosed row inTable
  · intro row member
    by_cases selected : row.id = id ∧ row.status = .received
    · refine ⟨{ row with status := .underReview },
        (rows _).mpr ⟨row, member, Or.inl ⟨selected.1, selected.2, rfl⟩⟩, rfl, ?_⟩
      simp [selected.2, ReportStatus.rank]
    · exact ⟨row, (rows row).mpr ⟨row, member, Or.inr ⟨selected, rfl⟩⟩, rfl, Nat.le_refl _⟩

theorem reports_kept (env : Env) (call : Call) (db : Db) (agree : ReportsAgree db) :
    ReportsKept db (runCall env call db).2 := by
  have wrote := runCall_wrote env call db
  generalize (runCall env call db).1 = answer at wrote
  generalize (runCall env call db).2 = after at wrote
  cases wrote with
  | idle => exact .untouched agree rfl rfl
  | submitted effect =>
      rename_i submission
      have links : after.caseReports = db.caseReports := by rw [effect.elsewhere]
      have inserted := effect.inserted
      generalize same : after.reports = reports at inserted
      cases inserted with
      | again => exact .untouched agree same links
      | new free => exact .submitted agree (reportRow submission) (effect.fresh free) rfl same links
  | marked effect =>
      simp only [PostgresReportRepository.markUnderReview, Except.ok.injEq,
        Ending.commit.injEq] at effect
      obtain ⟨_, rfl⟩ := effect
      exact .marked agree _ rfl rfl
  | caseCreated effect => exact .linked agree _ effect.reported effect.reports effect.links
  | linked effect =>
      rename_i c link
      exact .linked agree { caseId := c.id, reportId := link.reportId, linkedAt := env.now }
        (effect.reported _ rfl) effect.reports effect.links
  | reviewed effect =>
      refine .untouched agree effect.reports ?_
      rw [effect.links]
      exact List.append_nil _
  | alertCreated effect => exact .untouched agree (by rw [effect.elsewhere]) (by rw [effect.elsewhere])
  | alertCancelled effect =>
      exact .untouched agree (by rw [effect.elsewhere]) (by rw [effect.elsewhere])
  | edited _ same => exact .untouched agree (by rw [same]) (by rw [same])

/-- Whatever meets whatever: a report is linked exactly when its status says so, and from any moment
on its status goes only forward. -/
theorem report_status_agrees_with_links {ε α : Type}
    (program : Nat → Proc incidentInterface ε α) (init : Db)
    (distinct : (init.reports.map (·.id)).Nodup) (links : init.caseReports = [])
    (unlinked : ∀ row ∈ init.reports, row.status = .received ∨ row.status = .underReview)
    (config later : Config incidentMachine ε α)
    (reached : Reach freeRules program (initially (World.initial init)) config)
    (onward : Reach freeRules program config later) :
    ReportsAgree config.state.db ∧ ReportsAdvance config.state.db later.state.db := by
  have first : ReportsAgree init := by
    refine ⟨distinct, by simp [links], ?_, ?_⟩
    · intro row member
      rcases unlinked row member with status | status <;> simp [links, status]
    · intro row member
      rcases unlinked row member with status | status <;> simp [status]
  have agree := reach_holds freeRules program _ (fun world => ReportsAgree world.db) first
    (fun _ call env world _ agree => (reports_kept env call world.db agree).agree) config reached
  have both := reach_holds freeRules program config
    (fun world => ReportsAgree world.db ∧ ReportsAdvance config.state.db world.db)
    ⟨agree, fun row member => ⟨row, member, rfl, Nat.le_refl _⟩⟩
    (fun _ call env world _ known =>
      ⟨(reports_kept env call world.db known.1).agree,
        known.2.trans (reports_kept env call world.db known.1).advance⟩) later onward
  exact ⟨agree, both.2⟩

namespace Scenario

def reviewJobs : Nat → Job
  | 0 => .request (Supply.of 0) [] (.createCase ⟨1⟩ .missingChild)
  | _ => .request (Supply.of 1) (signedIn "admin") (.startReportReview
      "00000000-0000-0000-0000-000000000001")

/-- The review was let through to the report just before the case took it. -/
def reviewRace : List (Label Env) := runs 1 3 ++ runs 0 1 ++ [.call 1 env]

/-- The review finds the report linked and leaves it so. -/
theorem report_status_agrees_with_links_race : ∃ config : Pool,
    config.state.db.reports.map (fun row => row.status) = [.linkedToCase, .received] ∧
      ReportsAgree config.state.db := by
  have run : (play (server.pool reviewJobs) (fun _ _ => true) reviewRace
      (initially (World.initial store) : Pool)).any (fun config =>
        decide (config.state.db.reports.map (fun row => row.status) =
          [.linkedToCase, .received])) = true := by decide +kernel
  obtain ⟨config, arrived, rows⟩ := play_freely _ _ _ _ run
  have agree := report_status_agrees_with_links _ store (by decide) rfl
    (by simp [store, reportRow]) config config arrived .start
  exact ⟨config, of_decide_eq_true rows, agree.1⟩

end Scenario

end SafeCameroon.Incidents
