import SafeCameroon.Aggregate.AlertEffects
import SafeCameroon.Application.Disclosure
import SafeCameroon.Postgres.Reviewers

namespace SafeCameroon

open Table

def fieldRow (alertId : AlertId) (field : AlertFieldValue) : AlertFieldRow :=
  { alertId, field := field.field, value := field.value }

def fieldOfRow (row : AlertFieldRow) : AlertFieldValue := { field := row.field, value := row.value }

/-- The rows of an alert as its creation wrote them, those of its fields in any order. -/
structure AlertPersisted (creation : AlertCreation) (db : Db) : Prop where
  distinct : (db.alerts.map (·.id)).Nodup
  row : alertRow creation ∈ db.alerts
  fields : (db.alertFields.filter fun row => row.alertId = creation.alert.id).Perm
    (creation.alert.fields.map (fieldRow creation.alert.id))

/-- Nothing that the system makes of the two alerts differs. -/
structure SameMeaning (alert reloaded : Alert) : Prop where
  id : reloaded.id = alert.id
  caseId : reloaded.caseId = alert.caseId
  policyId : reloaded.policyId = alert.policyId
  policyVersion : reloaded.policyVersion = alert.policyVersion
  incidentType : reloaded.incidentType = alert.incidentType
  severity : reloaded.severity = alert.severity
  visibility : reloaded.visibility = alert.visibility
  trigger : reloaded.trigger = alert.trigger
  targetGeography : reloaded.targetGeography = alert.targetGeography
  status : reloaded.status = alert.status
  version : reloaded.version = alert.version
  issuer : reloaded.issuedByOrganizationId = alert.issuedByOrganizationId
  message : ∀ unicode delivery recipientLocale,
    buildOutboundMessage unicode reloaded delivery recipientLocale =
      buildOutboundMessage unicode alert delivery recipientLocale
  evaluation : ∀ unicode subscription,
    evaluateSubscription unicode subscription reloaded = evaluateSubscription unicode subscription alert

section Meaning

variable (alert : Alert) (fields : List AlertFieldValue)

/-- Where no field occurs twice, the first of a kind is the only one, in whatever order they stand. -/
theorem fieldValue_perm (order : fields.Perm alert.fields)
    (distinct : (alert.fields.map (·.field)).Nodup) (field : AlertField) :
    { alert with fields }.fieldValue field = alert.fieldValue field := by
  have same : lookup (·.field) field fields = lookup (·.field) field alert.fields :=
    lookup_perm (·.field) alert.fields fields order.symm distinct field
  exact congrArg (Option.map (·.value)) same

theorem sameMeaning_perm (order : fields.Perm alert.fields)
    (distinct : (alert.fields.map (·.field)).Nodup) : SameMeaning alert { alert with fields } := by
  have values := fieldValue_perm alert fields order distinct
  have same : SameMessage { alert with fields } alert :=
    { severity := rfl, targetGeography := rfl, fields := fun field _ => values field }
  constructor
  case message =>
    intro unicode delivery recipientLocale
    have body := same.body unicode delivery delivery recipientLocale
    calc buildOutboundMessage unicode { alert with fields } delivery recipientLocale
        = { endpointAddress := delivery.endpointAddress
            body := (buildOutboundMessage unicode { alert with fields } delivery
              recipientLocale).body } := rfl
      _ = buildOutboundMessage unicode alert delivery recipientLocale := by rw [body]; rfl
  all_goals intros; rfl

end Meaning

section Rows

/-- A version that passes the check of its column comes back as its last fifteen bits. -/
theorem versionFromColumn_ofNat (version : Nat) (positive : 0 < Int16.ofNat version) :
    versionFromColumn (Int16.ofNat version) = version % 2 ^ 16 ∧ version % 2 ^ 16 < 2 ^ 15 := by
  rw [Int16.lt_iff_toInt_lt, Int16.toInt_zero, Int16.toInt_ofNat', Int.bmod_def] at positive
  rw [versionFromColumn, Int16.toInt_ofNat', Int.bmod_def]
  have size : (Int16.size : Int) = 2 ^ 16 := rfl
  rw [size] at positive ⊢
  omega

def AlertCreation.stored (creation : AlertCreation) : Alert :=
  { creation.alert with policyVersion := creation.alert.policyVersion % 2 ^ 16 }

theorem alertFromRow_alertRow (creation : AlertCreation) (fields : List AlertFieldValue)
    (admissible : (alertRow creation).admissible = true) :
    alertFromRow (alertRow creation) fields = .ok { creation.stored with fields } := by
  simp only [AlertRow.admissible, Bool.and_eq_true, decide_eq_true_eq] at admissible
  have version := (versionFromColumn_ofNat _ admissible.1.1.2).1
  simp [alertFromRow, alertRow, AlertCreation.stored, version, TargetGeography.new_text,
    Except.toOption, bind, Except.bind, pure, Except.pure]

theorem alertFieldsFromRows_ok (rows : List AlertFieldRow) :
    alertFieldsFromRows rows = .ok (rows.map fieldOfRow) := by
  induction rows with
  | nil => rfl
  | cons row rows ih =>
      simp only [alertFieldsFromRows, AlertField.from_as, expect_some] at ih ⊢
      rw [List.mapM_cons, ih]
      rfl

theorem fieldsByAlert_ok (rows : List AlertFieldRow) (fields : AlertId → List AlertFieldValue) :
    PostgresAlertRepository.fieldsByAlert rows fields = .ok fun id =>
      fields id ++ (rows.filter fun row => row.alertId = id).map fieldOfRow := by
  induction rows generalizing fields with
  | nil => simp [PostgresAlertRepository.fieldsByAlert]
  | cons row rows ih =>
      simp only [PostgresAlertRepository.fieldsByAlert, AlertField.from_as, expect_some]
      refine (ih _).trans (congrArg Except.ok ?_)
      funext id
      by_cases same : row.alertId = id
      · subst same
        simp [fieldOfRow]
      · have other : id ≠ row.alertId := Ne.symm same
        simp [other, same]

theorem alertFromRow_id (row : AlertRow) (fields : List AlertFieldValue) (alert : Alert)
    (h : alertFromRow row fields = .ok alert) : alert.id = row.id := by
  simp only [alertFromRow, bind_ok, pure, Except.pure, Except.ok.injEq] at h
  obtain ⟨_, _, _, _, _, _, _, _, _, _, _, _, rfl⟩ := h
  rfl

theorem alertsFromRows_eq (rows : List AlertRow) (left fields : AlertId → List AlertFieldValue)
    (distinct : (rows.map (·.id)).Nodup) (there : ∀ row ∈ rows, left row.id = fields row.id) :
    PostgresAlertRepository.alertsFromRows rows left =
      rows.mapM fun row => alertFromRow row (fields row.id) := by
  induction rows generalizing left with
  | nil => rfl
  | cons row rows ih =>
      rw [List.map_cons, List.nodup_cons] at distinct
      have rest : ∀ other ∈ rows, Function.update left row.id [] other.id = fields other.id := by
        intro other member
        have differs : other.id ≠ row.id := by
          intro same
          exact distinct.1 (List.mem_map.mpr ⟨other, member, same⟩)
        rw [Function.update_of_ne differs]
        exact there other (List.mem_cons_of_mem _ member)
      rw [List.mapM_cons, PostgresAlertRepository.alertsFromRows, ih _ distinct.2 rest,
        there row List.mem_cons_self]

theorem insertAlertFields_rows (alertId : AlertId) (fields : List AlertFieldValue) (db after : Db)
    (h : insertAlertFields alertId fields db = .ok after) :
    after = { db with alertFields := db.alertFields ++ fields.map (fieldRow alertId) } := by
  induction fields generalizing db with
  | nil =>
      obtain rfl : db = after := by simpa [insertAlertFields] using h
      simp
  | cons field fields ih =>
      simp only [insertAlertFields] at h
      split at h
      · simp at h
      · simp only [bind_ok] at h
        obtain ⟨alertFields, inserted, rest⟩ := h
        obtain ⟨rfl, _⟩ := insertUnique_ok _ _ _ _ _ inserted
        rw [ih _ rest]
        simp [fieldRow]

end Rows

section Reload

variable (creation : AlertCreation) (later : Db)

theorem AlertPersisted.order (persisted : AlertPersisted creation later) (rows : List AlertFieldRow)
    (same : rows.Perm (later.alertFields.filter fun row => row.alertId = creation.alert.id)) :
    (rows.map fieldOfRow).Perm creation.alert.fields := by
  have back : (creation.alert.fields.map (fieldRow creation.alert.id)).map fieldOfRow =
      creation.alert.fields := by
    simp [fieldRow, fieldOfRow, Function.comp_def]
  rw [← back]
  exact (same.trans persisted.fields).map fieldOfRow

/-- Read back by its rows, an alert has the meaning of what is stored of it, which is its own just if
its policy has a version that the column can hold. -/
structure ReadBack (creation : AlertCreation) (reloaded : Alert) : Prop where
  stored : SameMeaning creation.stored reloaded
  same : SameMeaning creation.alert reloaded ↔ creation.alert.policyVersion < 2 ^ 15

theorem AlertPersisted.readBack (persisted : AlertPersisted creation later)
    (admissible : (alertRow creation).admissible = true)
    (distinct : (creation.alert.fields.map (·.field)).Nodup) (rows : List AlertFieldRow)
    (same : rows.Perm (later.alertFields.filter fun row => row.alertId = creation.alert.id)) :
    ReadBack creation { creation.stored with fields := rows.map fieldOfRow } := by
  have order := persisted.order creation later rows same
  have stored := sameMeaning_perm creation.stored _ order distinct
  simp only [AlertRow.admissible, Bool.and_eq_true, decide_eq_true_eq] at admissible
  obtain ⟨_, small⟩ := versionFromColumn_ofNat _ admissible.1.1.2
  refine ⟨stored, fun meaning => ?_, fun fits => ?_⟩
  · have kept : creation.alert.policyVersion % 2 ^ 16 = creation.alert.policyVersion :=
      meaning.policyVersion
    omega
  · have kept : creation.alert.policyVersion % 2 ^ 16 = creation.alert.policyVersion := by omega
    have unchanged : creation.stored = creation.alert := by rw [AlertCreation.stored, kept]
    rw [unchanged] at stored ⊢
    exact stored

theorem AlertPersisted.findById (persisted : AlertPersisted creation later)
    (admissible : (alertRow creation).admissible = true)
    (distinct : (creation.alert.fields.map (·.field)).Nodup) (tie : AlertFieldRow → Nat) :
    ∃ reloaded, PostgresAlertRepository.findById tie creation.alert.id later = .ok (some reloaded) ∧
      ReadBack creation reloaded := by
  refine ⟨_, ?_, persisted.readBack creation later admissible distinct _
    (orderBy_perm (fun _ => 0) tie _)⟩
  have stored : lookup (·.id) creation.alert.id later.alerts = some (alertRow creation) :=
    lookup_mem (·.id) later.alerts persisted.distinct (alertRow creation) persisted.row
  simp only [PostgresAlertRepository.findById, stored, alertFieldsFromRows_ok,
    alertFromRow_alertRow _ _ admissible, bind, Except.bind, pure, Except.pure]

theorem list_rows (tie : AlertFieldRow → Nat) (filter : AlertFilter) (limit offset : Nat)
    (registry : Registry) (unique : (registry.tables.alerts.map (·.id)).Nodup) :
    PostgresAlertRepository.list tie filter limit offset registry =
      let rows := ((PostgresAlertRepository.ordered filter registry).drop offset).take limit
      let fieldRows := orderBy (fun _ => 0) tie
        (registry.tables.alertFields.filter fun field => decide (field.alertId ∈ rows.map (·.id)))
      rows.mapM fun row => alertFromRow row
        ((fieldRows.filter fun field => field.alertId = row.id).map fieldOfRow) := by
  have whole : ((PostgresAlertRepository.ordered filter registry).map (·.id)).Nodup := by
    have matching : ((registry.tables.alerts.filter filter.admits).map (·.id)).Nodup :=
      List.Nodup.sublist (List.filter_sublist.map _) unique
    have sorted := (orderBy_perm (fun row => registry.alertCreatedAt row.id)
      (fun row => row.id.uuid.val) (registry.tables.alerts.filter filter.admits)).map (·.id)
    have reversed := (List.reverse_perm (orderBy (fun row => registry.alertCreatedAt row.id)
      (fun row => row.id.uuid.val) (registry.tables.alerts.filter filter.admits))).map (·.id)
    exact (reversed.trans sorted).nodup_iff.mpr matching
  have page : ((((PostgresAlertRepository.ordered filter registry).drop offset).take limit).map
      (·.id)).Nodup := by
    apply List.Nodup.sublist _ whole
    exact ((List.take_sublist _ _).trans (List.drop_sublist _ _)).map _
  simp only [PostgresAlertRepository.list]
  generalize ((PostgresAlertRepository.ordered filter registry).drop offset).take limit = rows at page ⊢
  cases rows with
  | nil => rfl
  | cons row rows =>
      dsimp only [List.isEmpty_cons]
      rw [if_neg Bool.false_ne_true]
      generalize orderBy (fun _ => 0) tie (registry.tables.alertFields.filter fun field =>
        decide (field.alertId ∈ (row :: rows).map (·.id))) = fieldRows
      have collected := alertsFromRows_eq (row :: rows)
        (fun id => [] ++ (fieldRows.filter fun field => field.alertId = id).map fieldOfRow)
        (fun id => (fieldRows.filter fun field => field.alertId = id).map fieldOfRow) page
        fun _ _ => List.nil_append _
      rw [fieldsByAlert_ok]
      exact collected

theorem AlertPersisted.list (persisted : AlertPersisted creation later)
    (admissible : (alertRow creation).admissible = true)
    (distinct : (creation.alert.fields.map (·.field)).Nodup) (tie : AlertFieldRow → Nat)
    (filter : AlertFilter) (limit offset : Nat) (registry : Registry) (alerts : List Alert)
    (tables : registry.tables = later)
    (h : PostgresAlertRepository.list tie filter limit offset registry = .ok alerts) :
    (∀ reloaded ∈ alerts, reloaded.id = creation.alert.id → ReadBack creation reloaded) ∧
      (alertRow creation ∈
          ((PostgresAlertRepository.ordered filter registry).drop offset).take limit →
        ∃ reloaded ∈ alerts, reloaded.id = creation.alert.id) := by
  rw [list_rows tie filter limit offset registry (tables ▸ persisted.distinct)] at h
  generalize paged : ((PostgresAlertRepository.ordered filter registry).drop offset).take limit =
    rows at h ⊢
  have stored : ∀ row ∈ rows, row ∈ later.alerts := by
    intro row member
    rw [← paged] at member
    have listed := List.mem_of_mem_drop (List.mem_of_mem_take member)
    simp only [PostgresAlertRepository.ordered, List.mem_reverse, mem_orderBy, List.mem_filter,
      tables] at listed
    exact listed.1
  constructor
  · intro reloaded member same
    obtain ⟨row, paged, read⟩ := mapM_mem _ _ _ h reloaded member
    have id : row.id = creation.alert.id := (alertFromRow_id _ _ _ read).symm.trans same
    have own : row = alertRow creation := eq_of_key (·.id) later.alerts persisted.distinct row
      (alertRow creation) (stored row paged) persisted.row id
    subst own
    rw [alertFromRow_alertRow _ _ admissible, Except.ok.injEq] at read
    rw [← read]
    apply persisted.readBack creation later admissible distinct
    rw [tables]
    refine ((orderBy_perm (fun _ => 0) tie _).filter _).trans (List.Perm.of_eq ?_)
    rw [List.filter_filter]
    apply List.filter_congr
    intro field _
    have onPage : creation.alert.id ∈ rows.map (·.id) := List.mem_map.mpr ⟨_, paged, rfl⟩
    by_cases own : field.alertId = creation.alert.id
    · simp [own, onPage, alertRow]
    · simp [own, alertRow]
  · intro listed
    obtain ⟨reloaded, member, read⟩ := mapM_image _ _ _ h _ listed
    exact ⟨reloaded, member, alertFromRow_id _ _ _ read⟩

end Reload

theorem create_admissible (creation : AlertCreation) (now : Timestamp) (db after : Db)
    (outcome : AlertCreationOutcome)
    (created : PostgresAlertRepository.create now creation db = .ok (.commit outcome after)) :
    (alertRow creation).admissible = true := by
  simp only [PostgresAlertRepository.create, bind_ok] at created
  obtain ⟨_, inserted, _⟩ := created
  unfold insertAlert at inserted
  split at inserted
  case isTrue admissible => exact admissible
  case isFalse => simp at inserted

theorem create_persisted (creation : AlertCreation) (now : Timestamp) (db after : Db)
    (outcome : AlertCreationOutcome) (unique : (db.alerts.map (·.id)).Nodup)
    (referenced : ∀ row ∈ db.alertFields, row.alertId ∈ db.alerts.map (·.id))
    (unused : creation.alert.id ∉ db.alerts.map (·.id))
    (created : PostgresAlertRepository.create now creation db = .ok (.commit outcome after)) :
    AlertPersisted creation after := by
    simp only [PostgresAlertRepository.create, bind_ok] at created
    obtain ⟨⟨duplicate, middle⟩, inserted, rest⟩ := created
    obtain ⟨alerts, rfl, insertion, _⟩ := insertAlert_ok _ _ _ _ inserted
    cases duplicate with
    | some alertId => simp [pure, Except.pure] at rest
    | none =>
        simp only [bind_ok, pure, Except.pure, Except.ok.injEq, Ending.commit.injEq] at rest
        obtain ⟨first, fields, second, event, third, audit, fourth, outbox, _, rfl⟩ := rest
        obtain rfl := insertAlertFields_rows _ _ _ _ fields
        obtain ⟨rfl, _⟩ := insertAlertEvent_ok _ _ _ _ event
        obtain ⟨rfl, _⟩ := insertAuditEvent_ok _ _ _ _ _ _ _ _ audit
        obtain ⟨rfl, _⟩ := insertOutboxEvent_ok _ _ _ _ _ _ _ _ outbox
        cases insertion with
        | again _ stored =>
            obtain ⟨row, member, _, same⟩ := Keyed.idByKey_some _ _ _ _ _ stored
            exact absurd (List.mem_map.mpr ⟨row, member, same⟩) unused
        | new _ =>
            constructor
            · rw [List.map_append]
              exact nodup_snoc _ _ unique unused
            · exact List.mem_append_right _ List.mem_cons_self
            · have before : (db.alertFields.filter fun row => row.alertId = creation.alert.id) = [] := by
                apply List.filter_eq_nil_iff.mpr
                intro row member same
                exact unused (of_decide_eq_true same ▸ referenced row member)
              have added : ((creation.alert.fields.map (fieldRow creation.alert.id)).filter
                  fun row => row.alertId = creation.alert.id) =
                    creation.alert.fields.map (fieldRow creation.alert.id) := by
                apply List.filter_eq_self.mpr
                intro row member
                obtain ⟨field, _, rfl⟩ := List.mem_map.mp member
                exact decide_eq_true rfl
              rw [List.filter_append, before, added, List.nil_append]

def bilingualCase : Case :=
  { id := ⟨1⟩, incidentType := .missingChild, status := .verified, reportIds := [], version := 3 }

def bilingualCreation (policyVersion : Nat) : AlertCreation :=
  let alert : Alert :=
    { id := ⟨10⟩, caseId := ⟨1⟩, policyId := "MISSING_CHILD_COMMUNITY", policyVersion
      incidentType := .missingChild, severity := .high, visibility := .community
      trigger := .caseVerified
      targetGeography := { text := "Douala", trimmed := TargetGeography.douala_trimmed
                           nonblank := TargetGeography.douala_nonblank }
      status := .active
      fields := [{ field := .safeDescriptionEn, value := "A girl of six" },
                 { field := .safeDescriptionFr, value := "Fillette de six ans" }]
      version := 1, issuedByOrganizationId := none }
  { alert, event := alert.event 11 .alertCreated, actor := .reviewer 6, auditEventId := 12
    outboxEventId := 13, requestId := 9, idempotencyKeyHash := none }

def bilingualDb : Db :=
  { Db.empty with cases :=
    [{ id := ⟨1⟩, incidentType := .missingChild, status := .verified, aggregateVersion := 3 }] }

theorem bilingual_created (version : Nat)
    (admissible : (alertRow (bilingualCreation version)).admissible = true) :
    ∃ after, PostgresAlertRepository.create 0 (bilingualCreation version) bilingualDb =
      .ok (.commit .created after) := by
  have english : "A girl of six".toList.all (· = ' ') = false := by decide
  have french : "Fillette de six ans".toList.all (· = ' ') = false := by decide
  unfold PostgresAlertRepository.create insertAlert
  rw [if_pos admissible]
  simp only [bilingualCreation, insertAlertFields, english, french]
  exact ⟨_, rfl⟩

/-- Version 65537 of the policy is stored, and comes back as version 1. -/
theorem reloaded_alert_renumbered :
    Alert.createFromCase (fun index => Fin.ofNat _ (10 + index)) bilingualCase
        { AlertPolicy.missingChildCommunityV1 with version := 65537 } .high
        (bilingualCreation 65537).alert.targetGeography (bilingualCreation 65537).alert.fields none =
      .ok ((bilingualCreation 65537).alert, (bilingualCreation 65537).event) ∧
    ∃ after, PostgresAlertRepository.create 0 (bilingualCreation 65537) bilingualDb =
        .ok (.commit .created after) ∧
      ∀ tie, ∃ reloaded, PostgresAlertRepository.findById tie (bilingualCreation 65537).alert.id after =
          .ok (some reloaded) ∧
        reloaded.policyVersion = 1 ∧ ¬ SameMeaning (bilingualCreation 65537).alert reloaded := by
  have admissible : (alertRow (bilingualCreation 65537)).admissible = true := by decide
  obtain ⟨after, created⟩ := bilingual_created 65537 admissible
  refine ⟨rfl, after, created, fun tie => ?_⟩
  have persisted := create_persisted (bilingualCreation 65537) 0 bilingualDb _ _ List.nodup_nil
    (by intro row member; cases member) (by intro member; cases member) created
  obtain ⟨reloaded, found, back⟩ := persisted.findById _ _ admissible (by decide) tie
  refine ⟨reloaded, found, back.stored.policyVersion, fun same => ?_⟩
  exact absurd (back.same.mp same) (by decide)

/-- What creation stored is read back by both of the queries, whatever the order of the rows: with the
same meaning just for the policies whose version is within the column. -/
theorem reloaded_alert_same_meaning_iff (fresh : Supply) (c : Case) (policy : AlertPolicy)
    (severity : Severity) (targetGeography : TargetGeography) (fields : List AlertFieldValue)
    (issuedByOrganizationId : Option OrganizationId) (creation : AlertCreation)
    (made : Alert.createFromCase fresh c policy severity targetGeography fields
      issuedByOrganizationId = .ok (creation.alert, creation.event))
    (now : Timestamp) (db after : Db) (outcome : AlertCreationOutcome)
    (unique : (db.alerts.map (·.id)).Nodup)
    (referenced : ∀ row ∈ db.alertFields, row.alertId ∈ db.alerts.map (·.id))
    (unused : creation.alert.id ∉ db.alerts.map (·.id))
    (created : PostgresAlertRepository.create now creation db = .ok (.commit outcome after)) :
    creation.alert.policyVersion = policy.version ∧ AlertPersisted creation after ∧
      ∀ later, AlertPersisted creation later →
        (∀ tie, ∃ reloaded,
          PostgresAlertRepository.findById tie creation.alert.id later = .ok (some reloaded) ∧
            SameMeaning creation.stored reloaded ∧
              (SameMeaning creation.alert reloaded ↔ policy.version < 2 ^ 15)) ∧
        ∀ tie filter limit offset registry alerts, registry.tables = later →
          PostgresAlertRepository.list tie filter limit offset registry = .ok alerts →
          (∀ reloaded ∈ alerts, reloaded.id = creation.alert.id →
            SameMeaning creation.stored reloaded ∧
              (SameMeaning creation.alert reloaded ↔ policy.version < 2 ^ 15)) ∧
          (alertRow creation ∈
              ((PostgresAlertRepository.ordered filter registry).drop offset).take limit →
            ∃ reloaded ∈ alerts, reloaded.id = creation.alert.id) := by
  obtain ⟨_, _, checked, same⟩ := createFromCase_ok _ _ _ _ _ _ _ _ _ made
  have version := (Alert.createFromCase_new _ _ _ _ _ _ _ _ _ made).policyVersion
  have distinct : (creation.alert.fields.map (·.field)).Nodup := by
    rw [same]
    exact (checkFields_ok policy [] _ checked).2
  have admissible := create_admissible creation now db after outcome created
  refine ⟨version, create_persisted creation now db after outcome unique referenced unused created,
    fun later persisted => ⟨?_, ?_⟩⟩
  · intro tie
    obtain ⟨reloaded, found, back⟩ := persisted.findById creation later admissible distinct tie
    exact ⟨reloaded, found, back.stored, version ▸ back.same⟩
  · intro tie filter limit offset registry alerts tables listed
    obtain ⟨shown, complete⟩ := persisted.list creation later admissible distinct tie filter limit
      offset registry alerts tables listed
    refine ⟨fun reloaded member own => ?_, complete⟩
    have back := shown reloaded member own
    exact ⟨back.stored, version ▸ back.same⟩

theorem reloaded_alert_bilingual : ∃ after, AlertPersisted (bilingualCreation 1) after ∧
    ∀ tie, ∃ reloaded, PostgresAlertRepository.findById tie (bilingualCreation 1).alert.id after =
      .ok (some reloaded) ∧ SameMeaning (bilingualCreation 1).alert reloaded := by
  obtain ⟨after, created⟩ := bilingual_created 1 (by decide)
  obtain ⟨_, persisted, reload⟩ := reloaded_alert_same_meaning_iff
    (fun index => Fin.ofNat _ (10 + index)) bilingualCase .missingChildCommunityV1 .high
    (bilingualCreation 1).alert.targetGeography (bilingualCreation 1).alert.fields none
    (bilingualCreation 1) rfl 0 bilingualDb _ _ List.nodup_nil
    (by intro row member; cases member) (by intro member; cases member) created
  refine ⟨_, persisted, fun tie => ?_⟩
  obtain ⟨reloaded, found, _, same⟩ := (reload _ persisted).1 tie
  exact ⟨reloaded, found, same.mpr (by decide)⟩

end SafeCameroon
