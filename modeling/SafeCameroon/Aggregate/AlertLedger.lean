import SafeCameroon.Aggregate.AlertEffects
import SafeCameroon.Library.Optimistic

namespace SafeCameroon

open Table Optimistic PostgresAlertRepository

/-- The one thing that happens to an alert after its creation. -/
inductive AlertStep : AlertStatus → AlertEventType → AlertStatus → Prop where
  | cancel : AlertStep .active .alertCancelled .cancelled

def AlertRow.record (row : AlertRow) (log : List AlertEventType) :
    Record AlertStatus AlertEventType :=
  { version := row.aggregateVersion, state := row.status, log }

def alertEventsOf (id : AlertId) (db : Db) : List AlertEventRow :=
  db.alertEvents.filter fun event => event.alertId = id

structure AlertTells (db : Db) (row : AlertRow) (log : List AlertEventType) : Prop where
  sound : Sound AlertStep .active (row.record log)
  events : (alertEventsOf row.id db).map (·.eventType) = .alertCreated :: log

structure AlertLedger (db : Db) : Prop where
  distinct : (db.alerts.map (·.id)).Nodup
  known : ∀ event ∈ db.alertEvents, event.alertId ∈ db.alerts.map (·.id)
  created : ∀ row ∈ db.alerts,
    (row.id, 1) ∈ db.alertEvents.map fun event => (event.alertId, event.aggregateVersion)
  tells : ∀ row ∈ db.alerts, ∃ log, AlertTells db row log

structure AlertRow.Describes (row : AlertRow) (alert : Alert) : Prop where
  id : row.id = alert.id
  caseId : row.caseId = alert.caseId
  visibility : row.visibility = alert.visibility
  issuer : row.issuedByOrganizationId = alert.issuedByOrganizationId

/-- An alert as somebody read it: the stored one was cancelled since, or is still the same. -/
def AlertStale (db : Db) (alert : Alert) : Prop :=
  ∃ stored ∈ db.alerts, stored.Describes alert ∧
    Behind alert.version alert.status (stored.record [])

/-- Every alert is still there, with another status at most; a cancelled one stays cancelled. -/
def AlertsKept (db after : Db) : Prop :=
  ∀ row ∈ db.alerts, ∃ later ∈ after.alerts,
    later = { row with status := later.status, aggregateVersion := later.aggregateVersion } ∧
      (row.status = .cancelled → later.status = .cancelled)

theorem AlertsKept.same {db after : Db} (alerts : after.alerts = db.alerts) :
    AlertsKept db after :=
  fun row member => ⟨row, alerts ▸ member, rfl, id⟩

theorem AlertLedger.frame {db after : Db} (ledger : AlertLedger db) (alerts : after.alerts = db.alerts)
    (events : after.alertEvents = db.alertEvents) : AlertLedger after := by
  refine ⟨alerts ▸ ledger.distinct, ?_, ?_, ?_⟩
  · rw [alerts, events]
    exact ledger.known
  · rw [alerts, events]
    exact ledger.created
  · intro row member
    obtain ⟨log, told⟩ := ledger.tells row (alerts ▸ member)
    refine ⟨log, told.sound, ?_⟩
    rw [alertEventsOf, events]
    exact told.events

section Creation

variable {now : Timestamp} {creation : AlertCreation} {c : Case} {policy : AlertPolicy}
  {issuer : Option OrganizationId} {db after : Db}

theorem AlertLedger.creates (ledger : AlertLedger db) (effect : Created now creation db after)
    (new : Alert.New c policy issuer creation.alert creation.event) :
    after.alerts = db.alerts ++ [alertRow creation] ∧
      creation.alert.id ∉ db.alerts.map (·.id) := by
  have inserted := effect.inserted
  generalize same : after.alerts = alerts at inserted
  cases inserted with
  | new free => exact ⟨rfl, (effect.fresh free).1⟩
  | again key stored =>
      obtain ⟨row, member, _, own⟩ := Keyed.idByKey_some _ _ _ _ _ stored
      have first := ledger.created row member
      have unnumbered := effect.unnumbered
      have same : row.id = creation.alert.id := own
      rw [new.subject, new.number, ← same] at unnumbered
      exact absurd first unnumbered

theorem AlertLedger.issued (ledger : AlertLedger db) (effect : Created now creation db after)
    (new : Alert.New c policy issuer creation.alert creation.event) : AlertLedger after := by
  obtain ⟨alerts, unused⟩ := ledger.creates effect new
  have foreign : ∀ row ∈ db.alerts, creation.event.alertId ≠ row.id := by
    intro row member same
    exact unused (new.subject ▸ same ▸ List.mem_map_of_mem member)
  have none : alertEventsOf creation.alert.id db = [] := by
    rw [alertEventsOf, List.filter_eq_nil_iff]
    intro event member same
    exact unused (of_decide_eq_true same ▸ ledger.known event member)
  refine ⟨?_, ?_, ?_, ?_⟩
  · rw [alerts, List.map_append]
    exact nodup_snoc _ _ ledger.distinct unused
  · intro event member
    rw [alerts, List.map_append]
    rw [effect.events, List.mem_append, List.mem_singleton] at member
    rcases member with old | rfl
    · exact List.mem_append_left _ (ledger.known event old)
    · exact List.mem_append_right _ (by simp [alertRow, alertEventRow, new.subject])
  · intro row member
    rw [effect.events, List.map_append]
    rw [alerts, List.mem_append, List.mem_singleton] at member
    rcases member with old | rfl
    · exact List.mem_append_left _ (ledger.created row old)
    · exact List.mem_append_right _ (by simp [alertRow, alertEventRow, new.subject, new.number])
  · intro row member
    rw [alerts, List.mem_append, List.mem_singleton] at member
    rcases member with old | rfl
    · obtain ⟨log, told⟩ := ledger.tells row old
      refine ⟨log, told.sound, ?_⟩
      have same : alertEventsOf row.id after = alertEventsOf row.id db := by
        simp [alertEventsOf, effect.events, List.filter_append, alertEventRow, foreign row old]
      rw [same]
      exact told.events
    · refine ⟨[], ?_, ?_⟩
      · have start := sound_create AlertStep AlertStatus.active
        simpa only [AlertRow.record, alertRow, new.version, new.status] using start
      · have events : alertEventsOf creation.alert.id after =
            alertEventsOf creation.alert.id db ++ [alertEventRow creation.event creation.actor] := by
          simp [alertEventsOf, effect.events, List.filter_append, alertEventRow, new.subject]
        have types : (alertEventsOf creation.alert.id after).map (·.eventType) =
            [.alertCreated] := by
          rw [events, none]
          simp [alertEventRow, new.type]
        exact types

end Creation

section Cancellation

variable {now : Timestamp} {before alert : Alert} {cancellation : AlertCancellation} {db after : Db}

/-- A cancellation of what was read: an active alert, with the version after the one read. -/
structure AlertEnds (before alert : Alert) (cancellation : AlertCancellation) : Prop where
  active : before.status = .active
  alert : alert = { before with status := .cancelled, version := before.version + 1 }
  subject : cancellation.event.alertId = before.id
  type : cancellation.event.eventType = .alertCancelled

theorem cancelAlert_ends (fresh : Supply) (before alert : Alert) (actor : Actor) (requestId : Uuid)
    (cancellation : AlertCancellation)
    (h : cancelAlert fresh before actor requestId = .ok (alert, cancellation)) :
    AlertEnds before alert cancellation ∧ cancellation.actor = actor := by
  simp only [cancelAlert, bind_ok, pure, Except.pure, Except.ok.injEq, Prod.mk.injEq] at h
  obtain ⟨_, _, ⟨ended, event⟩, domain, rfl, rfl⟩ := h
  cases result : before.cancel fresh with
  | error error => simp [result, Except.mapError] at domain
  | ok pair =>
      simp only [result, Except.mapError, Except.ok.injEq] at domain
      subst domain
      obtain ⟨active, same, subject, type, _⟩ := Alert.cancel_ok _ _ _ _ result
      exact ⟨⟨active, same, subject, type⟩, rfl⟩

theorem cancelled_rows (effect : Cancelled now alert cancellation db after)
    (distinct : (db.alerts.map (·.id)).Nodup) (row : AlertRow) :
    row ∈ after.alerts ↔ (row ∈ db.alerts ∧ row.id ≠ alert.id) ∨
      ∃ before ∈ db.alerts, before.id = alert.id ∧ before.aggregateVersion + 1 = alert.version ∧
        row = cancelledRow alert before := by
  obtain ⟨current, member, same, version⟩ := effect.matched
  rw [effect.alerts]
  simp only [mem_updateWhere, Bool.and_eq_true, decide_eq_true_eq]
  constructor
  · intro stored
    obtain ⟨before, inTable, change⟩ := stored
    rcases change with ⟨selected, rfl⟩ | ⟨skipped, rfl⟩
    · exact Or.inr ⟨before, inTable, selected.1, selected.2, rfl⟩
    · refine Or.inl ⟨inTable, fun equal => ?_⟩
      have identical := eq_of_key (·.id) _ distinct row current inTable member
        (equal.trans same.symm)
      subst identical
      simp [same, version] at skipped
  · intro stored
    rcases stored with ⟨inTable, differs⟩ | ⟨before, inTable, equal, older, rfl⟩
    · exact ⟨row, inTable, Or.inr ⟨by simp [differs], rfl⟩⟩
    · exact ⟨before, inTable, Or.inl ⟨⟨equal, older⟩, rfl⟩⟩

theorem AlertLedger.cancels (ledger : AlertLedger db) (stale : AlertStale db before)
    (ends : AlertEnds before alert cancellation)
    (effect : Cancelled now alert cancellation db after) : AlertLedger after := by
  have rows := cancelled_rows effect ledger.distinct
  have id : alert.id = before.id := by rw [ends.alert]
  have version : alert.version = before.version + 1 := by rw [ends.alert]
  have ids : after.alerts.map (·.id) = db.alerts.map (·.id) := by
    rw [effect.alerts]
    exact map_key_updateWhere _ _ _ _ fun _ => rfl
  have subject : cancellation.event.alertId = alert.id := ends.subject.trans id.symm
  refine ⟨ids ▸ ledger.distinct, ?_, ?_, ?_⟩
  · intro event member
    rw [ids]
    rw [effect.events, List.mem_append, List.mem_singleton] at member
    rcases member with old | rfl
    · exact ledger.known event old
    · obtain ⟨current, inTable, same, _⟩ := effect.matched
      simp only [alertEventRow, subject, ← same]
      exact List.mem_map_of_mem inTable
  · intro row member
    rw [effect.events, List.map_append]
    rcases (rows row).mp member with ⟨old, _⟩ | ⟨current, inTable, _, _, rfl⟩
    · exact List.mem_append_left _ (ledger.created row old)
    · exact List.mem_append_left _ (ledger.created current inTable)
  · intro row member
    rcases (rows row).mp member with ⟨old, differs⟩ | ⟨current, inTable, same, older, rfl⟩
    · obtain ⟨log, told⟩ := ledger.tells row old
      refine ⟨log, told.sound, ?_⟩
      have unchanged : alertEventsOf row.id after = alertEventsOf row.id db := by
        simp [alertEventsOf, effect.events, List.filter_append, alertEventRow, subject,
          Ne.symm differs]
      rw [unchanged]
      exact told.events
    · obtain ⟨log, told⟩ := ledger.tells current inTable
      obtain ⟨stored, inStore, describes, behind⟩ := stale
      have key : stored.id = current.id := calc
        stored.id = before.id := describes.id
        _ = alert.id := id.symm
        _ = current.id := same.symm
      obtain rfl := eq_of_key (·.id) _ ledger.distinct stored current inStore inTable key
      have written := sound_write AlertStep .active (stored.record log) before.version
        before.status .cancelled .alertCancelled told.sound behind (ends.active ▸ .cancel)
      have current_version : (stored.record log).version + 1 = before.version + 1 := by
        simp only [AlertRow.record]
        omega
      simp only [Record.write, current_version, if_true] at written
      have status : alert.status = .cancelled := by rw [ends.alert]
      refine ⟨log ++ [.alertCancelled], ?_, ?_⟩
      · simpa only [AlertRow.record, cancelledRow, version, status] using written
      · have events : alertEventsOf stored.id after =
            alertEventsOf stored.id db ++ [alertEventRow cancellation.event cancellation.actor] := by
          simp [alertEventsOf, effect.events, List.filter_append, alertEventRow, subject, same]
        have types : (alertEventsOf stored.id after).map (·.eventType) =
            .alertCreated :: (log ++ [.alertCancelled]) := by
          rw [events, List.map_append, told.events]
          simp [alertEventRow, ends.type]
        exact types

theorem AlertStale.cancels {read : Alert} (stale : AlertStale db read)
    (distinct : (db.alerts.map (·.id)).Nodup)
    (effect : Cancelled now alert cancellation db after) : AlertStale after read := by
  obtain ⟨row, member, describes, behind⟩ := stale
  have rows := cancelled_rows effect distinct
  by_cases differs : row.id = alert.id
  · obtain ⟨current, inTable, equal, older⟩ := effect.matched
    obtain rfl := eq_of_key (·.id) _ distinct row current member inTable
      (differs.trans equal.symm)
    refine ⟨cancelledRow alert row, (rows _).mpr (Or.inr ⟨row, member, equal, older, rfl⟩),
      ⟨describes.id, describes.caseId, describes.visibility, describes.issuer⟩, ?_⟩
    have written := behind_write (row.record []) read.version alert.version read.status
      alert.status .alertCancelled behind
    have current_version : (row.record []).version + 1 = alert.version := older
    simp only [Record.write, current_version, if_true] at written
    exact ⟨written.1, written.2⟩
  · exact ⟨row, (rows row).mpr (Or.inl ⟨member, differs⟩), describes, behind⟩

theorem AlertsKept.cancels (distinct : (db.alerts.map (·.id)).Nodup)
    (status : alert.status = .cancelled)
    (effect : Cancelled now alert cancellation db after) : AlertsKept db after := by
  intro row member
  have rows := cancelled_rows effect distinct
  by_cases differs : row.id = alert.id
  · obtain ⟨current, inTable, equal, older⟩ := effect.matched
    obtain rfl := eq_of_key (·.id) _ distinct row current member inTable
      (differs.trans equal.symm)
    exact ⟨cancelledRow alert row, (rows _).mpr (Or.inr ⟨row, member, equal, older, rfl⟩), rfl,
      fun _ => status⟩
  · exact ⟨row, (rows row).mpr (Or.inl ⟨member, differs⟩), rfl, fun ended => ended⟩

end Cancellation

theorem AlertStale.appended {db after : Db} {read : Alert} (stale : AlertStale db read)
    (added : List AlertRow) (alerts : after.alerts = db.alerts ++ added) : AlertStale after read := by
  obtain ⟨row, member, facts⟩ := stale
  refine ⟨row, ?_, facts⟩
  rw [alerts]
  exact List.mem_append_left _ member

theorem AlertsKept.appended {db after : Db} (added : List AlertRow)
    (alerts : after.alerts = db.alerts ++ added) : AlertsKept db after := by
  intro row member
  refine ⟨row, ?_, rfl, fun ended => ended⟩
  rw [alerts]
  exact List.mem_append_left _ member

theorem findById_current (tie : AlertFieldRow → Nat) (alertId : AlertId) (db : Db) (alert : Alert)
    (found : findById tie alertId db = .ok (some alert)) :
    ∃ row ∈ db.alerts, row.id = alertId ∧ row.Describes alert ∧ alert.status = row.status ∧
      alert.version = row.aggregateVersion := by
  simp only [findById] at found
  split at found
  · simp at found
  · rename_i row stored
    simp only [bind_ok, pure, Except.pure, Except.ok.injEq, Option.some.injEq] at found
    obtain ⟨fields, _, other, read, rfl⟩ := found
    simp only [alertFromRow, AlertVisibility.from_as, AlertStatus.from_as, expect_some, bind_ok,
      pure, Except.pure, Except.ok.injEq] at read
    obtain ⟨_, _, _, _, _, rfl, _, _, _, _, _, rfl, rfl⟩ := read
    obtain ⟨member, same⟩ := lookup_some _ _ _ _ stored
    exact ⟨row, member, same, ⟨rfl, rfl, rfl, rfl⟩, rfl, rfl⟩

end SafeCameroon
