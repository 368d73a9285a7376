import SafeCameroon.Library.Paging
import SafeCameroon.Postgres.Cases
import SafeCameroon.Postgres.Organizations
import SafeCameroon.Postgres.Reports
import SafeCameroon.Postgres.Subscribers

namespace SafeCameroon

open Table Paging

structure ListingColumns where
  caseUpdatedAt : CaseId → Timestamp
  reportReceivedAt : ReportId → Timestamp
  organizationCreatedAt : OrganizationId → Timestamp

structure CaseFilter where
  status : Option CaseStatus
  incidentType : Option IncidentType
  deriving DecidableEq, Repr

def CaseFilter.admits (filter : CaseFilter) (row : CaseRow) : Bool :=
  filter.status.all (fun status => row.status = status) &&
    filter.incidentType.all fun incidentType => row.incidentType = incidentType

namespace PostgresCaseRepository

def matching (filter : CaseFilter) (db : Db) : List CaseRow := db.cases.filter filter.admits

/-- The cases of a page, each with the reports that the second query found for it. -/
def list (columns : ListingColumns) (tie linkTie : Uuid → Nat) (filter : CaseFilter)
    (limit offset : Nat) (db : Db) : Except Failure (List Case) :=
  let rows := page limit offset (recent (fun row => columns.caseUpdatedAt row.id)
    (fun row : CaseRow => row.id.uuid) tie (matching filter db))
  let links := orderBy (·.linkedAt) (fun row => linkTie row.reportId.uuid)
    (db.caseReports.filter fun link => decide (link.caseId ∈ rows.map (·.id)))
  rows.mapM fun row =>
    reconstitute row ((links.filter fun link => link.caseId = row.id).map (·.reportId))

end PostgresCaseRepository

namespace PostgresReportRepository

def matching (status : Option ReportStatus) (db : Db) : List ReportRow :=
  db.reports.filter fun row => status.all fun status => row.status = status

def list (columns : ListingColumns) (tie : Uuid → Nat) (status : Option ReportStatus)
    (limit offset : Nat) (db : Db) : List ReportRow :=
  page limit offset (recent (fun row => columns.reportReceivedAt row.id)
    (fun row : ReportRow => row.id.uuid) tie (matching status db))

end PostgresReportRepository

namespace PostgresOrganizationRepository

def organizationOfRow (row : OrganizationRow) : Organization :=
  { id := row.id, verifiedIncidentTypes := row.verifiedIncidentTypes
    verifiedAlertVisibilities := row.verifiedAlertVisibilities, consumerId := row.consumerId
    isActive := row.isActive }

def list (columns : ListingColumns) (tie : Uuid → Nat) (limit offset : Nat) (db : Db) :
    List Organization :=
  (page limit offset (recent (fun row => columns.organizationCreatedAt row.id)
    (fun row : OrganizationRow => row.id.uuid) tie db.organizations)).map organizationOfRow

end PostgresOrganizationRepository

/-- The pages at the first so many offsets, one after another, show each of the ids once, whatever
order each of their queries chooses among rows that compare equal. -/
def VisitsOnce (query : (Uuid → Nat) → Nat → Nat → List Uuid) (ids : List Uuid)
    (limit count : Nat) : Prop :=
  ∀ ties : Nat → Uuid → Nat,
    ((List.range count).flatMap fun number => query (ties number) limit (number * limit)).Perm ids

def caseIds (result : Except Failure (List Case)) : List Uuid :=
  match result with
  | .ok cases => cases.map (·.id.uuid)
  | .error _ => []

theorem caseIds_reconstituted (reports : CaseRow → List ReportId) (rows : List CaseRow) :
    caseIds (rows.mapM fun row => PostgresCaseRepository.reconstitute row (reports row)) =
      rows.map (·.id.uuid) := by
  have built : ∃ cases : List Case, (rows.mapM fun row =>
      PostgresCaseRepository.reconstitute row (reports row)) = .ok cases ∧
        cases.map (·.id.uuid) = rows.map (·.id.uuid) := by
    induction rows with
    | nil => exact ⟨[], rfl, rfl⟩
    | cons row rest ih =>
        obtain ⟨cases, read, same⟩ := ih
        refine ⟨{ id := row.id, incidentType := row.incidentType, status := row.status
                  reportIds := reports row, version := row.aggregateVersion } :: cases, ?_, ?_⟩
        · rw [List.mapM_cons, read]
          simp [PostgresCaseRepository.reconstitute, bind, Except.bind, pure, Except.pure]
        · simp only [List.map_cons, same]
  obtain ⟨cases, read, same⟩ := built
  rw [read]
  exact same

theorem caseIds_list (columns : ListingColumns) (tie linkTie : Uuid → Nat) (filter : CaseFilter)
    (limit offset : Nat) (db : Db) :
    caseIds (PostgresCaseRepository.list columns tie linkTie filter limit offset db) =
      (page limit offset (recent (fun row => columns.caseUpdatedAt row.id)
        (fun row : CaseRow => row.id.uuid) tie
          (PostgresCaseRepository.matching filter db))).map (·.id.uuid) :=
  caseIds_reconstituted _ _

theorem uuids_distinct {Row Id : Type} (id : Row → Id) (uuid : Id → Uuid)
    (injective : Function.Injective uuid) (table rows : List Row) (part : rows.Sublist table)
    (distinct : (table.map id).Nodup) : (rows.map fun row => uuid (id row)).Nodup := by
  have mapped : (rows.map fun row => uuid (id row)) = (rows.map id).map uuid := by simp
  rw [mapped]
  exact ((part.map id).nodup distinct).map injective

/-- Paging through cases, reports, subscriptions and organizations visits everything once exactly when
no page ends among rows with one time. -/
theorem listings_visit_once_iff (columns : ListingColumns) (db : Db) (limit : Nat)
    (positive : 0 < limit) :
    (∀ filter linkTie count, (db.cases.map (·.id)).Nodup →
      (PostgresCaseRepository.matching filter db).length ≤ count * limit →
      (VisitsOnce (fun tie limit offset => caseIds
          (PostgresCaseRepository.list columns tie linkTie filter limit offset db))
        ((PostgresCaseRepository.matching filter db).map (·.id.uuid)) limit count ↔
      Parted (fun row => columns.caseUpdatedAt row.id) limit
        (PostgresCaseRepository.matching filter db))) ∧
    (∀ status count, (db.reports.map (·.id)).Nodup →
      (PostgresReportRepository.matching status db).length ≤ count * limit →
      (VisitsOnce (fun tie limit offset =>
          (PostgresReportRepository.list columns tie status limit offset db).map (·.id.uuid))
        ((PostgresReportRepository.matching status db).map (·.id.uuid)) limit count ↔
      Parted (fun row => columns.reportReceivedAt row.id) limit
        (PostgresReportRepository.matching status db))) ∧
    (∀ count, (db.subscriptions.map (·.subscription.id)).Nodup →
      db.subscriptions.length ≤ count * limit →
      (VisitsOnce (fun tie limit offset =>
          (PostgresSubscriptionRepository.listAllPage tie limit offset db).map (·.id.uuid))
        (db.subscriptions.map (·.subscription.id.uuid)) limit count ↔
      Parted (·.createdAt) limit db.subscriptions)) ∧
    ∀ count, (db.organizations.map (·.id)).Nodup → db.organizations.length ≤ count * limit →
      (VisitsOnce (fun tie limit offset =>
          (PostgresOrganizationRepository.list columns tie limit offset db).map (·.id.uuid))
        (db.organizations.map (·.id.uuid)) limit count ↔
      Parted (fun row => columns.organizationCreatedAt row.id) limit db.organizations) := by
  refine ⟨?_, ?_, ?_, ?_⟩
  · intro filter linkTie count unique enough
    have distinct := uuids_distinct (·.id) CaseId.uuid (fun ⟨_⟩ ⟨_⟩ same => congrArg CaseId.mk same)
      db.cases (PostgresCaseRepository.matching filter db) List.filter_sublist unique
    simp only [VisitsOnce, caseIds_list]
    exact recent_pages_iff _ (fun row : CaseRow => row.id.uuid) limit _ distinct positive count enough
  · intro status count unique enough
    have distinct := uuids_distinct (·.id) ReportId.uuid (fun ⟨_⟩ ⟨_⟩ same => congrArg ReportId.mk same)
      db.reports (PostgresReportRepository.matching status db) List.filter_sublist unique
    exact recent_pages_iff _ (fun row : ReportRow => row.id.uuid) limit _ distinct positive count
      enough
  · intro count unique enough
    have distinct := uuids_distinct (·.subscription.id) SubscriptionId.uuid
      (fun ⟨_⟩ ⟨_⟩ same => congrArg SubscriptionId.mk same) db.subscriptions db.subscriptions
      (List.Sublist.refl _) unique
    have iff := recent_pages_iff (·.createdAt) (fun row : SubscriptionRow => row.subscription.id.uuid)
      limit db.subscriptions distinct positive count enough
    simp only [VisitsOnce, PostgresSubscriptionRepository.listAllPage, List.map_map]
    exact iff
  · intro count unique enough
    have distinct := uuids_distinct (·.id) OrganizationId.uuid
      (fun ⟨_⟩ ⟨_⟩ same => congrArg OrganizationId.mk same) db.organizations db.organizations
      (List.Sublist.refl _) unique
    have iff := recent_pages_iff (fun row => columns.organizationCreatedAt row.id)
      (fun row : OrganizationRow => row.id.uuid) limit db.organizations distinct positive count enough
    simp only [VisitsOnce, PostgresOrganizationRepository.list, List.map_map]
    exact iff

def twoCases : Db :=
  { Db.empty with cases :=
    [{ id := ⟨1⟩, incidentType := .missingChild, status := .verified, aggregateVersion := 3 },
     { id := ⟨2⟩, incidentType := .missingChild, status := .verified, aggregateVersion := 3 }] }

def everyCase : CaseFilter := { status := none, incidentType := none }

def timesOf (time : Uuid → Timestamp) : ListingColumns :=
  { caseUpdatedAt := fun id => time id.uuid, reportReceivedAt := fun id => time id.uuid
    organizationCreatedAt := fun id => time id.uuid }

theorem listings_visit_once_untied : VisitsOnce (fun tie limit offset => caseIds
    (PostgresCaseRepository.list (timesOf fun id => id.val) tie (fun _ => 0) everyCase limit offset
      twoCases)) [1, 2] 1 2 := by
  have cases := (listings_visit_once_iff (timesOf fun id => id.val) twoCases 1 (by decide)).1
  apply (cases everyCase (fun _ => 0) 2 (by decide) (by decide)).mpr
  intro row member number
  rcases List.mem_cons.mp member with rfl | later
  · change number * 1 ≤ 1 ∨ 2 ≤ number * 1
    omega
  · obtain rfl := List.mem_singleton.mp later
    change number * 1 ≤ 0 ∨ 1 ≤ number * 1
    omega

/-- The case on the first page comes again on the second, and the other one never. -/
theorem tied_case_unvisited :
    (twoCases.cases.map (·.id)).Nodup ∧
      PostgresCaseRepository.matching everyCase twoCases = twoCases.cases ∧
      ((List.range 2).flatMap fun number => caseIds (PostgresCaseRepository.list (timesOf fun _ => 0)
        (fun id => if id.val = number + 1 then 1 else 0) (fun _ => 0) everyCase 1 (number * 1)
          twoCases)) = [1, 1] ∧
      ¬ VisitsOnce (fun tie limit offset => caseIds (PostgresCaseRepository.list (timesOf fun _ => 0)
        tie (fun _ => 0) everyCase limit offset twoCases)) [1, 2] 1 2 := by
  have twice : ((List.range 2).flatMap fun number => caseIds (PostgresCaseRepository.list
      (timesOf fun _ => 0) (fun id => if id.val = number + 1 then 1 else 0) (fun _ => 0) everyCase 1
        (number * 1) twoCases)) = [1, 1] := by
    decide
  refine ⟨by decide, rfl, twice, ?_⟩
  intro once
  have pages := once fun number id => if id.val = number + 1 then 1 else 0
  rw [twice] at pages
  exact absurd pages (by decide)

end SafeCameroon
