import SafeCameroon.Access.Registration
import SafeCameroon.Api.AlertReading
import SafeCameroon.Library.Paging
import SafeCameroon.Postgres.AlertReload

namespace SafeCameroon.Access.AlertReading

open Process Table Paging Text
open Incidents (VerifiedSession)

/-- What the constraints of the table say of its rows: the primary key, and no blank geography. -/
structure WellStored (registry : Registry) : Prop where
  unique : (registry.tables.alerts.map (·.id)).Nodup
  visible : ∀ row ∈ registry.tables.alerts, trim row.targetGeography ≠ ""

def ReadsAs (registry : Registry) (row : AlertRow) (alert : Alert) : Prop :=
  ∃ fields, fields.Perm (((registry.tables.alertFields.filter fun field =>
      field.alertId = row.id)).map fieldOfRow) ∧ alertFromRow row fields = .ok alert

structure AccessIn (registry : Registry) (reviewerId : Uuid) (access : Incidents.Alerts.AlertAccess) :
    Prop where
  membership : PostgresOrganizationRepository.findMembership reviewerId registry.tables =
    .ok (some access.membership)
  organization : access.organization = access.membership.organizationId.bind fun id =>
    PostgresOrganizationRepository.findById id registry.tables
  subscriptions : ∃ tie, access.subscriptions =
    match (access.organization.filter (·.isActive)).bind (·.consumerId) with
    | some id => PostgresSubscriptionRepository.findByConsumer tie id registry.tables
    | none => []

def readable (unicode : UnicodeData) (access : Incidents.Alerts.AlertAccess) (row : AlertRow) : Bool :=
  match alertFromRow row [] with
  | .ok alert => access.canRead unicode alert
  | .error _ => false

/-- The rows of a page as they are specified: those of the filter that the reviewer may read, the
skipped ones dropped, and no more than the limit. -/
def listed (unicode : UnicodeData) (access : Incidents.Alerts.AlertAccess) (filter : AlertFilter)
    (limit offset : Nat) (registry : Registry) : List AlertRow :=
  page limit offset ((PostgresAlertRepository.ordered filter registry).filter
    (readable unicode access))

section Rows

variable {registry : Registry} {row : AlertRow} {alert : Alert} {unicode : UnicodeData}
  {access : Incidents.Alerts.AlertAccess}

theorem readable_eq (reads : ReadsAs registry row alert) :
    readable unicode access row = access.canRead unicode alert := by
  obtain ⟨fields, _, read⟩ := reads
  have bare : alertFromRow row [] = .ok { alert with fields := [] } := by
    simp only [alertFromRow, bind_ok, pure, Except.pure, Except.ok.injEq] at read ⊢
    obtain ⟨a, first, b, second, c, third, d, fourth, e, fifth, f, sixth, rfl⟩ := read
    exact ⟨a, first, b, second, c, third, d, fourth, e, fifth, f, sixth, rfl⟩
  rw [readable, bare]
  rfl

theorem alertFromRow_visible (fields : List AlertFieldValue) (visible : trim row.targetGeography ≠ "") :
    ∃ alert, alertFromRow row fields = .ok alert := by
  simp [alertFromRow, TargetGeography.new, visible, Except.toOption, bind, Except.bind, pure,
    Except.pure]

theorem mem_ordered {filter : AlertFilter} :
    row ∈ PostgresAlertRepository.ordered filter registry ↔
      row ∈ registry.tables.alerts ∧ filter.admits row = true := by
  simp [PostgresAlertRepository.ordered]

theorem list_reads (stored : WellStored registry) (tie : AlertFieldRow → Nat) (filter : AlertFilter)
    (limit offset : Nat) :
    ∃ alerts, PostgresAlertRepository.list tie filter limit offset registry = .ok alerts ∧
      List.Forall₂ (ReadsAs registry)
        (page limit offset (PostgresAlertRepository.ordered filter registry)) alerts := by
  have read := list_rows tie filter limit offset registry stored.unique
  dsimp only at read
  have there : ∀ row ∈ page limit offset (PostgresAlertRepository.ordered filter registry),
      row ∈ registry.tables.alerts := by
    intro row member
    exact (mem_ordered.mp (List.mem_of_mem_drop (List.mem_of_mem_take member))).1
  rw [page] at there ⊢
  generalize paged : ((PostgresAlertRepository.ordered filter registry).drop offset).take limit =
    rows at read there ⊢
  obtain ⟨alerts, total⟩ := mapM_total _ rows fun row member =>
    alertFromRow_visible _ (stored.visible row (there row member))
  refine ⟨alerts, read.trans total, ?_⟩
  have fields : ∀ row ∈ rows, ((orderBy (fun _ => 0) tie (registry.tables.alertFields.filter
      fun field => decide (field.alertId ∈ rows.map (·.id)))).filter
        fun field => field.alertId = row.id).Perm
      (registry.tables.alertFields.filter fun field => field.alertId = row.id) := by
    intro row member
    refine ((orderBy_perm (fun _ => 0) tie _).filter _).trans (List.Perm.of_eq ?_)
    rw [List.filter_filter]
    apply List.filter_congr
    intro field _
    by_cases own : field.alertId = row.id
    · have onPage : row.id ∈ rows.map (·.id) := List.mem_map.mpr ⟨row, member, rfl⟩
      simp [own, onPage]
    · simp [own]
  apply mapM_forall₂ _ _ rows alerts total
  intro row member alert result
  exact ⟨_, (fields row member).map fieldOfRow, result⟩

end Rows

section Scan

variable (unicode : UnicodeData) (access : Incidents.Alerts.AlertAccess) (registry : Registry)
  (limit offset : Nat)

structure Scanned (seen : List AlertRow) (scan : Scan) : Prop where
  selected : List.Forall₂ (ReadsAs registry)
    (page limit offset (seen.filter (readable unicode access))) scan.selected
  matched : scan.selected.length < limit →
    scan.matched = (seen.filter (readable unicode access)).length

theorem scanned_nil : Scanned unicode access registry limit offset [] ⟨[], 0⟩ where
  selected := by simp [page]
  matched := fun _ => rfl

theorem Scanned.full {seen : List AlertRow} {scan : Scan}
    (scanned : Scanned unicode access registry limit offset seen scan)
    (full : scan.selected.length = limit) (rest : List AlertRow) :
    Scanned unicode access registry limit offset (seen ++ rest) scan where
  selected := by
    have length := scanned.selected.length_eq
    rw [List.filter_append, page_append_full limit offset _ _ (length.trans full)]
    exact scanned.selected
  matched := fun short => absurd full (Nat.ne_of_lt short)

theorem Scanned.alert {seen : List AlertRow} {scan : Scan}
    (scanned : Scanned unicode access registry limit offset seen scan)
    (short : scan.selected.length < limit) {row : AlertRow} {alert : Alert}
    (reads : ReadsAs registry row alert) :
    Scanned unicode access registry limit offset (seen ++ [row])
      (if access.canRead unicode alert then
        { selected := if scan.matched ≥ offset then scan.selected ++ [alert] else scan.selected
          matched := scan.matched + 1 }
      else scan) := by
  have visible : readable unicode access row = access.canRead unicode alert := readable_eq reads
  have length := scanned.selected.length_eq
  have counted := scanned.matched short
  cases may : access.canRead unicode alert with
  | false =>
      rw [may] at visible
      have same : (seen ++ [row]).filter (readable unicode access) =
          seen.filter (readable unicode access) := by
        simp [List.filter_append, visible]
      exact ⟨by rw [same]; exact scanned.selected, fun more => by rw [same]; exact counted⟩
  | true =>
      rw [may] at visible
      have grown : (seen ++ [row]).filter (readable unicode access) =
          seen.filter (readable unicode access) ++ [row] := by
        simp [List.filter_append, visible]
      constructor
      · rw [grown, page_append_row limit offset _ row (by omega), ← counted]
        by_cases reached : offset ≤ scan.matched
        · simp only [reached, if_true]
          exact List.rel_append scanned.selected (.cons reads .nil)
        · simp only [reached, if_true, if_false]
          exact scanned.selected
      · intro _
        rw [grown, List.length_append, List.length_singleton, ← counted]
        rfl

theorem Scanned.batch {rows : List AlertRow} {alerts : List Alert}
    (reads : List.Forall₂ (ReadsAs registry) rows alerts) {seen : List AlertRow} {scan : Scan}
    (scanned : Scanned unicode access registry limit offset seen scan)
    (short : scan.selected.length < limit) :
    Scanned unicode access registry limit offset (seen ++ rows)
      (Scan.batch (access.canRead unicode) limit offset alerts scan) := by
  induction reads generalizing seen scan with
  | nil =>
      rw [List.append_nil]
      exact scanned
  | @cons row alert rows alerts first rest ih =>
      have next := scanned.alert unicode access registry limit offset short first
      have split : seen ++ row :: rows = (seen ++ [row]) ++ rows := by simp
      rw [split, Scan.batch]
      cases may : access.canRead unicode alert with
      | false =>
          rw [may, if_neg Bool.false_ne_true] at next
          rw [if_neg Bool.false_ne_true]
          exact ih next short
      | true =>
          rw [may, if_pos rfl] at next
          rw [if_pos rfl]
          let now : Scan :=
            { selected := if scan.matched ≥ offset then scan.selected ++ [alert] else scan.selected
              matched := scan.matched + 1 }
          change Scanned unicode access registry limit offset _ now at next
          show Scanned unicode access registry limit offset _ (if now.selected.length = limit then now
            else Scan.batch (access.canRead unicode) limit offset alerts now)
          by_cases full : now.selected.length = limit
          · rw [if_pos full]
            exact next.full unicode access registry limit offset full rows
          · rw [if_neg full]
            apply ih next
            have bound := next.selected.length_eq
            rw [page, List.length_take] at bound
            omega

end Scan

section Finds

variable {lower : PostgresReviewerRepository.Lower} {pid : Nat} {registry : Registry} {α β : Type}

/-- The program has changed nothing and not panicked, and the fact holds of what it found. -/
structure Finds (registry : Registry) (fact : α → Prop) (result : Option (Except HandlerError α))
    (world : World) : Prop where
  same : world.registry = registry
  calm : ∀ message, result ≠ some (.error (.panicked message))
  found : ∀ value, result = some (.ok value) → fact value

theorem finds_none (fact : α → Prop) (world : World) (same : world.registry = registry) :
    Finds registry fact none world where
  same := same
  calm := fun _ clash => by cases clash
  found := fun _ clash => by cases clash

theorem finds_done (fact : α → Prop) (value : α) (world : World) (same : world.registry = registry)
    (holds : fact value) :
    (Proc.done value : Handler α).Ensures (accessMachine lower) pid (Finds registry fact) world where
  same := same
  calm := fun _ clash => by cases clash
  found := fun other equal => by
    cases equal
    exact holds

theorem finds_refuse (fact : α → Prop) (error : ApiError) (world : World)
    (same : world.registry = registry) :
    (refuse error : Handler α).Ensures (accessMachine lower) pid (Finds registry fact) world where
  same := same
  calm := fun _ clash => by cases clash
  found := fun _ clash => by cases clash

structure Reading.Of (lower : PostgresReviewerRepository.Lower) (registry : Registry) (call : Call)
    (fact : call.Res → Prop) : Prop where
  unchanged : ∀ env, (runCall lower env call registry).2 = registry
  database : ∀ env failure, (runCall lower env call registry).1 = .error failure → failure = .database
  answers : ∀ env value, (runCall lower env call registry).1 = .ok value → fact value

theorem finds_bind (middle : α → Prop) (fact : β → Prop) (program : Handler α) (rest : α → Handler β)
    (world : World)
    (first : program.Ensures (accessMachine lower) pid (Finds registry middle) world)
    (next : ∀ value later, World.registry later = registry → middle value →
      (rest value).Ensures (accessMachine lower) pid (Finds registry fact) later) :
    (program.bind rest).Ensures (accessMachine lower) pid (Finds registry fact) world := by
  apply ensures_bind (accessMachine lower) pid _ _ program rest world first
  · intro later stopped
    exact finds_none fact later stopped.same
  · intro later error raised
    refine { same := raised.same, calm := ?_, found := fun _ clash => by cases clash }
    intro message clash
    cases clash
    exact raised.calm message rfl
  · intro later value ended
    exact next value later ended.same (ended.found value rfl)

theorem finds_ask (error : ApiError) (call : Call) {fact : call.Res → Prop} (world : World)
    (same : world.registry = registry) (reads : Reading.Of lower registry call fact) :
    (orFail error call).Ensures (accessMachine lower) pid (Finds registry fact) world := by
  refine ⟨finds_none fact world same, ?_⟩
  intro env
  have kept : (world.execute lower pid call env).2.registry = registry := by
    rw [World.execute_registry, same, reads.unchanged]
  cases answer : (world.execute lower pid call env).1 with
  | ok value =>
      rw [World.execute_answer, same] at answer
      exact finds_done fact value _ kept (reads.answers env value answer)
  | error failure =>
      rw [World.execute_answer, same] at answer
      rw [reads.database env failure answer]
      exact finds_refuse fact error _ kept

end Finds

section Reads

variable {lower : PostgresReviewerRepository.Lower} {registry : Registry}

theorem Reading.Of.mono {call : Call} {strong weak : call.Res → Prop}
    (reads : Reading.Of lower registry call strong) (implies : ∀ value, strong value → weak value) :
    Reading.Of lower registry call weak where
  unchanged := reads.unchanged
  database := reads.database
  answers := fun env value answered => implies value (reads.answers env value answered)

theorem readingOf_query {call : Call} (body : Registry → Except Failure call.Res)
    (runs : ∀ env, runCall lower env call registry = query env.fault .database body registry)
    (total : ∃ value, body registry = .ok value) :
    Reading.Of lower registry call fun value => body registry = .ok value where
  unchanged := fun env => by rw [runs env, query_store]
  database := fun env failure failed => by
    obtain ⟨value, made⟩ := total
    rw [runs env] at failed
    cases fault : env.fault with
    | true => simpa [query, fault, eq_comm] using failed
    | false => simp [query, fault, made] at failed
  answers := fun env value answered => by
    rw [runs env] at answered
    exact query_ok _ _ _ _ _ answered

end Reads

section Lifted

variable {α β : Type}

theorem lift_bind (program : Incidents.Handler α) (rest : α → Incidents.Handler β) :
    lift (program.bind rest) = (lift program).bind fun value => lift (rest value) :=
  Proc.embed_bind _ _ program rest

theorem lift_orFail (error : ApiError) (call : Incidents.Call) :
    lift (Incidents.orFail error call) = orFail error (.incident call) := by
  apply congrArg (Proc.call (I := accessInterface) (Call.incident call))
  funext answer
  cases answer with
  | ok value => rfl
  | error failure => cases failure <;> rfl

theorem finds_lift_ask {lower : PostgresReviewerRepository.Lower} {pid : Nat} {registry : Registry}
    (error : ApiError) (call : Incidents.Call) {fact : call.Res → Prop} (world : World)
    (same : world.registry = registry) (reads : Reading.Of lower registry (.incident call) fact) :
    (lift (Incidents.orFail error call)).Ensures (accessMachine lower) pid (Finds registry fact)
      world := by
  rw [lift_orFail]
  exact finds_ask error (.incident call) world same reads

theorem readingOf_incident {lower : PostgresReviewerRepository.Lower} {registry : Registry}
    (call : Incidents.Call) (body : Db → Except Failure call.Res)
    (runs : ∀ env, Incidents.runCall env call registry.tables =
      query env.fault .database body registry.tables)
    (total : ∃ value, body registry.tables = .ok value) :
    Reading.Of lower registry (.incident call) fun value => body registry.tables = .ok value := by
  have whole : ∀ env, runCall lower env (.incident call) registry =
      query env.fault .database (fun registry => body registry.tables) registry := by
    intro env
    simp only [runCall, runs env, query]
  exact @readingOf_query lower registry (.incident call) (fun registry => body registry.tables) whole
    total

end Lifted

section Handlers

variable {lower : PostgresReviewerRepository.Lower} {pid : Nat} {registry : Registry}
  (verify : String → Option VerifiedSession) (headers : List (String × Bytes)) (requestId : Uuid)

def namedReviewer : Option Uuid :=
  ((((header "authorization" headers).bind headerText).bind Incidents.Reviewer.bearerToken).bind
    verify).map (·.reviewerId)

theorem findMembership_total (reviewerId : Uuid) (db : Db) :
    ∃ found, PostgresOrganizationRepository.findMembership reviewerId db = .ok found := by
  rw [PostgresOrganizationRepository.findMembership]
  split
  · exact ⟨none, rfl⟩
  · rename_i row found
    rw [Role.from_as, expect_some]
    exact ⟨_, rfl⟩

theorem actor_finds (world : World) (same : world.registry = registry) :
    (lift (Incidents.Reviewer.actorFromHeaders verify headers requestId)).Ensures
      (accessMachine lower) pid (Finds registry fun actor => ∀ reviewerId,
        actor = .reviewer reviewerId → namedReviewer verify headers = some reviewerId) world := by
  unfold Incidents.Reviewer.actorFromHeaders namedReviewer
  cases present : header "authorization" headers with
  | none => exact finds_done _ _ world same fun _ clash => by cases clash
  | some value =>
      simp only [Option.bind_some]
      cases bearer : (headerText value).bind Incidents.Reviewer.bearerToken with
      | none => exact finds_refuse _ _ world same
      | some token =>
          simp only [Option.bind_some]
          cases accepted : verify token with
          | none => exact finds_refuse _ _ world same
          | some verified =>
              simp only [Proc.bind_def, lift_bind]
              apply finds_bind (fun _ => True)
              · apply finds_lift_ask _ (.isSessionRevoked _ _) world same
                exact
                  { unchanged := fun env => rfl
                    database := fun env failure failed => by
                      simp only [runCall, Incidents.runCall, query] at failed
                      split at failed
                      · exact (Except.error.inj failed).symm
                      · cases failed
                    answers := fun _ _ _ => trivial }
              · intro revoked later kept _
                cases revoked with
                | true => exact finds_refuse _ _ later kept
                | false =>
                    apply finds_done _ _ later kept
                    intro reviewerId named
                    cases named
                    rfl

theorem alertAccess_finds (actor : Actor) (world : World) (same : world.registry = registry) :
    (lift (Incidents.Alerts.alertAccess actor requestId)).Ensures (accessMachine lower) pid
      (Finds registry fun access => ∃ reviewerId, actor = .reviewer reviewerId ∧
        AccessIn registry reviewerId access) world := by
  cases actor with
  | automated => exact finds_refuse _ _ world same
  | reviewer reviewerId =>
      unfold Incidents.Alerts.alertAccess Incidents.OrganizationAccess.membership
      simp only [Proc.bind_def, Proc.bind_assoc, lift_bind]
      apply finds_bind (fun found =>
        PostgresOrganizationRepository.findMembership reviewerId registry.tables = .ok found)
      · exact finds_lift_ask _ (.findMembership reviewerId) world same (readingOf_incident
          (.findMembership reviewerId) (PostgresOrganizationRepository.findMembership reviewerId)
          (fun _ => rfl) (findMembership_total reviewerId registry.tables))
      · intro found later kept membership
        cases found with
        | none => exact finds_refuse _ _ later kept
        | some found =>
            apply finds_bind (fun organization => organization = found.organizationId.bind fun id =>
              PostgresOrganizationRepository.findById id registry.tables)
            · unfold Incidents.Alerts.accessOrganization
              cases found.organizationId with
              | none => exact finds_done _ _ later kept rfl
              | some id =>
                  have reads := @readingOf_incident lower registry (.findOrganization id)
                    (fun db => .ok (PostgresOrganizationRepository.findById id db)) (fun _ => rfl)
                    ⟨_, rfl⟩
                  exact finds_lift_ask _ (.findOrganization id) later kept
                    (reads.mono fun value read => (Except.ok.inj read).symm)
            · intro organization later kept organizationRead
              apply finds_bind (fun subscriptions => ∃ tie, subscriptions =
                match (organization.filter (·.isActive)).bind (·.consumerId) with
                | some id => PostgresSubscriptionRepository.findByConsumer tie id registry.tables
                | none => [])
              · unfold Incidents.Alerts.accessSubscriptions
                cases (organization.filter (·.isActive)).bind (·.consumerId) with
                | none => exact finds_done _ _ later kept ⟨fun _ => 0, rfl⟩
                | some id =>
                    apply finds_lift_ask _ (.findSubscriptionsByConsumer id) later kept
                    exact
                      { unchanged := fun env => rfl
                        database := fun env failure failed => by
                          simp only [runCall, Incidents.runCall, query] at failed
                          split at failed
                          · exact (Except.error.inj failed).symm
                          · cases failed
                        answers := fun env value answered => by
                          simp only [runCall, Incidents.runCall, query] at answered
                          split at answered
                          · cases answered
                          · exact ⟨env.tie, (Except.ok.inj answered).symm⟩ }
              · intro subscriptions later kept subscriptionsRead
                exact finds_done _ _ later kept ⟨reviewerId, rfl, membership, organizationRead,
                  subscriptionsRead⟩

theorem readingOf_list (stored : WellStored registry) (filter : AlertFilter) (limit offset : Nat) :
    Reading.Of lower registry (.listAlerts filter limit offset) fun alerts =>
      List.Forall₂ (ReadsAs registry)
        (page limit offset (PostgresAlertRepository.ordered filter registry)) alerts where
  unchanged := fun env => rfl
  database := fun env failure failed => by
    obtain ⟨alerts, read, _⟩ := list_reads stored env.fieldTie filter limit offset
    simp only [runCall, query, read] at failed
    split at failed
    · exact (Except.error.inj failed).symm
    · cases failed
  answers := fun env value answered => by
    obtain ⟨alerts, read, reads⟩ := list_reads stored env.fieldTie filter limit offset
    simp only [runCall, query, read] at answered
    split at answered
    · cases answered
    · cases answered
      exact reads

variable (unicode : UnicodeData) (access : Incidents.Alerts.AlertAccess) (filter : AlertFilter)
  (limit offset : Nat)

theorem scan_finds (stored : WellStored registry) (fuel scanOffset : Nat) (scan : Scan)
    (scanned : Scanned unicode access registry limit offset
      ((PostgresAlertRepository.ordered filter registry).take scanOffset) scan)
    (short : scan.selected.length < limit)
    (within : scanOffset ≤ (PostgresAlertRepository.ordered filter registry).length)
    (enough : (PostgresAlertRepository.ordered filter registry).length < scanOffset + 100 * fuel)
    (world : World) (same : world.registry = registry) :
    (scanAlerts (access.canRead unicode) filter limit offset requestId fuel scanOffset scan).Ensures
      (accessMachine lower) pid (Finds registry fun alerts => List.Forall₂ (ReadsAs registry)
        (listed unicode access filter limit offset registry) alerts) world := by
  induction fuel generalizing scanOffset scan world with
  | zero => omega
  | succ fuel ih =>
      apply finds_bind _ _ _ _ world (finds_ask _ (.listAlerts filter 100 scanOffset) world same
        (readingOf_list stored filter 100 scanOffset))
      intro batch later kept reads
      have next := scanned.batch unicode access registry limit offset reads short
      have joined : (PostgresAlertRepository.ordered filter registry).take scanOffset ++
          page 100 scanOffset (PostgresAlertRepository.ordered filter registry) =
            (PostgresAlertRepository.ordered filter registry).take (scanOffset + 100) :=
        List.take_add.symm
      have length := reads.length_eq
      rw [page, List.length_take, List.length_drop] at length
      rw [joined] at next
      dsimp only
      generalize Scan.batch (access.canRead unicode) limit offset batch scan = now at next ⊢
      by_cases ended : batch.length < 100 ∨ now.selected.length = limit
      · rw [if_pos ended]
        apply finds_done _ _ later kept
        rw [listed]
        have whole := next
        cases ended with
        | inl last =>
            rw [List.take_of_length_le (by omega)] at next
            exact next.selected
        | inr full =>
            have rest := next.full unicode access registry limit offset full
              ((PostgresAlertRepository.ordered filter registry).drop (scanOffset + 100))
            rw [List.take_append_drop] at rest
            exact rest.selected
      · rw [if_neg ended]
        have bound := next.selected.length_eq
        rw [page, List.length_take] at bound
        apply ih (scanOffset + 100) now next
        · omega
        · omega
        · omega
        · exact kept

end Handlers

section Listing

variable {lower : PostgresReviewerRepository.Lower} {pid : Nat} {registry : Registry}
  (unicode : UnicodeData) (access : Incidents.Alerts.AlertAccess) (query : ListAlertsQuery)

/-- The alerts of the filter that the reviewer's own organization issued. -/
def ownAlerts (registry : Registry) : List AlertRow :=
  (PostgresAlertRepository.ordered query.filter registry).filter fun row =>
    access.membership.organizationId.isSome &&
      decide (access.membership.organizationId = row.issuedByOrganizationId)

/-- The shortcut is not taken, or there is nothing to show: the reviewer is a platform admin, the
organization is active and subscribes to something, no alert is asked for, or the organization has
issued no more alerts than are skipped. -/
def ShortcutSafe (registry : Registry) : Prop :=
  access.membership.role = .platformAdmin ∨ access.subscriptions ≠ [] ∨ query.pageLimit = 0 ∨
    (ownAlerts access query registry).length ≤ query.pageOffset

/-- The responses are those to the rows of the page as it is specified. -/
def Lists (registry : Registry) (responses : List Incidents.Alerts.AlertResponse) : Prop :=
  List.Forall₂ (fun row response => ∃ alert, ReadsAs registry row alert ∧
      response = access.response unicode alert)
    (listed unicode access query.filter query.pageLimit query.pageOffset registry) responses

def shown (registry : Registry) : List AlertRow :=
  if access.membership.role ≠ .platformAdmin ∧ access.subscriptions = [] then []
  else listed unicode access query.filter query.pageLimit query.pageOffset registry

theorem listed_admin (stored : WellStored registry) (admin : access.membership.role = .platformAdmin)
    (filter : AlertFilter) (limit offset : Nat) : listed unicode access filter limit offset registry =
      page limit offset (PostgresAlertRepository.ordered filter registry) := by
  rw [listed, List.filter_eq_self.mpr]
  intro row member
  obtain ⟨alert, read⟩ := alertFromRow_visible [] (stored.visible row (mem_ordered.mp member).1)
  simp [readable, read, Incidents.Alerts.AlertAccess.canRead, admin]

theorem page_finds (stored : WellStored registry) (requestId : Uuid) (fuel : Nat)
    (enough : (PostgresAlertRepository.ordered query.filter registry).length < 100 * fuel)
    (world : World) (same : world.registry = registry) :
    (pageOf unicode fuel access query requestId).Ensures (accessMachine lower) pid
      (Finds registry fun alerts =>
        List.Forall₂ (ReadsAs registry) (shown unicode access query registry) alerts) world := by
  unfold pageOf shown
  by_cases admin : access.membership.role = .platformAdmin
  · rw [if_pos admin, if_neg (fun other => other.1 admin), listed_admin unicode access stored admin]
    exact finds_ask _ _ world same (readingOf_list stored _ _ _)
  · rw [if_neg admin]
    by_cases none : access.subscriptions = []
    · simp only [none, List.isEmpty_nil, Bool.true_or, if_true]
      rw [if_pos ⟨admin, trivial⟩]
      exact finds_done _ _ world same .nil
    · rw [if_neg (fun other => none other.2)]
      have some : access.subscriptions.isEmpty = false := by
        simpa using none
      simp only [some, Bool.false_or]
      by_cases zero : query.pageLimit = 0
      · rw [if_pos (decide_eq_true zero)]
        apply finds_done _ _ world same
        simp [listed, page, zero]
      · rw [if_neg (by simpa using zero)]
        apply scan_finds requestId unicode access query.filter _ _ stored fuel 0
        · exact scanned_nil unicode access registry _ _
        · exact Nat.pos_of_ne_zero zero
        · exact Nat.zero_le _
        · omega
        · exact same

theorem alertFromRow_issuer (row : AlertRow) (fields : List AlertFieldValue) (alert : Alert)
    (read : alertFromRow row fields = .ok alert) :
    alert.issuedByOrganizationId = row.issuedByOrganizationId := by
  simp only [alertFromRow, bind_ok, pure, Except.pure, Except.ok.injEq] at read
  obtain ⟨_, _, _, _, _, _, _, _, _, _, _, _, rfl⟩ := read
  rfl

theorem readable_own (stored : WellStored registry) (member : access.membership.role ≠ .platformAdmin)
    (none : access.subscriptions = []) :
    (PostgresAlertRepository.ordered query.filter registry).filter (readable unicode access) =
      ownAlerts access query registry := by
  apply List.filter_congr
  intro row there
  obtain ⟨alert, read⟩ := alertFromRow_visible [] (stored.visible row (mem_ordered.mp there).1)
  have issuer := alertFromRow_issuer row [] alert read
  simp [readable, read, Incidents.Alerts.AlertAccess.canRead, member, none, issuer]

theorem page_empty (limit offset : Nat) (rows : List AlertRow) :
    page limit offset rows = [] ↔ limit = 0 ∨ rows.length ≤ offset := by
  rw [page, ← List.length_eq_zero_iff, List.length_take, List.length_drop]
  omega

theorem lists_iff (stored : WellStored registry) (alerts : List Alert)
    (found : List.Forall₂ (ReadsAs registry) (shown unicode access query registry) alerts) :
    Lists unicode access query registry (alerts.map (access.response unicode)) ↔
      ShortcutSafe access query registry := by
  by_cases short : access.membership.role ≠ .platformAdmin ∧ access.subscriptions = []
  · rw [shown, if_pos short] at found
    have nothing : alerts = [] := by
      cases found
      rfl
    have empty : Lists unicode access query registry (alerts.map (access.response unicode)) ↔
        listed unicode access query.filter query.pageLimit query.pageOffset registry = [] := by
      rw [Lists, nothing, List.map_nil, List.forall₂_nil_right_iff]
    rw [empty, listed, readable_own unicode access query stored short.1 short.2, page_empty]
    simp [ShortcutSafe, short.1, short.2]
  · rw [shown, if_neg short] at found
    have lists : Lists unicode access query registry (alerts.map (access.response unicode)) := by
      rw [Lists, List.forall₂_map_right_iff]
      exact found.imp fun row alert reads => ⟨alert, reads, rfl⟩
    have safe : ShortcutSafe access query registry := by
      by_cases admin : access.membership.role = .platformAdmin
      · exact Or.inl admin
      · exact Or.inr (Or.inl fun none => short ⟨admin, none⟩)
    exact iff_of_true lists safe

end Listing

section Answers

variable {lower : PostgresReviewerRepository.Lower} {pid : Nat} {registry : Registry} {α β : Type}

structure Answers (fact : α → Prop) (result : Option (Except HandlerError α)) (world : World) :
    Prop where
  calm : ∀ message, result ≠ some (.error (.panicked message))
  answered : ∀ value, result = some (.ok value) → fact value

theorem answers_after (middle : α → Prop) (fact : β → Prop) (program : Handler α)
    (rest : α → Handler β) (world : World)
    (first : program.Ensures (accessMachine lower) pid (Finds registry middle) world)
    (next : ∀ value later, World.registry later = registry → middle value →
      (rest value).Ensures (accessMachine lower) pid (Answers fact) later) :
    (program.bind rest).Ensures (accessMachine lower) pid (Answers fact) world := by
  apply ensures_bind (accessMachine lower) pid _ _ program rest world first
  · intro later _
    exact ⟨fun _ clash => (by cases clash), fun _ clash => by cases clash⟩
  · intro later error raised
    refine ⟨?_, fun _ clash => by cases clash⟩
    intro message clash
    cases clash
    exact raised.calm message rfl
  · intro later value ended
    exact next value later ended.same (ended.found value rfl)

theorem answers_refuse (fact : α → Prop) (error : ApiError) (world : World) :
    (refuse error : Handler α).Ensures (accessMachine lower) pid (Answers fact) world where
  calm := fun _ clash => by cases clash
  answered := fun _ clash => by cases clash

theorem answers_audited (fact : α → Prop) (fresh : Supply) (actor : Actor) (resourceId : Option Uuid)
    (requestId : Uuid) (value : α) (holds : fact value) (world : World) :
    ((auditAlertRead fresh actor resourceId requestId).bind fun _ => Proc.done value).Ensures
      (accessMachine lower) pid (Answers fact) world := by
  cases actor with
  | automated => exact answers_refuse fact _ world
  | reviewer actorId =>
      apply ensures_perform (accessMachine lower) pid
      · exact ⟨fun _ clash => (by cases clash), fun _ clash => by cases clash⟩
      · intro env _ _
        refine ⟨fun _ clash => (by cases clash), ?_⟩
        intro other same
        cases same
        exact holds
      · intro env failure failed
        have database : failure = .database := by
          apply transaction_database env world.registry (fun db =>
            PostgresAuditEventRepository.record (fresh 0) actorId
              (organizationIdForActor (some actorId) db) "ALERT_VIEWED" "ALERT" resourceId requestId
              db) _ failed
          intro failure raised
          simp only [PostgresAuditEventRepository.record, bind_error, pure, Except.pure, reduceCtorEq,
            and_false, exists_false, or_false] at raised
          exact insertUnique_error _ _ _ _ _ raised
        rw [database]
        exact ⟨fun _ clash => (by cases clash), fun _ clash => by cases clash⟩

end Answers

section Specified

variable {lower : PostgresReviewerRepository.Lower} {pid : Nat} {registry : Registry}
  (unicode : UnicodeData) (verify : String → Option VerifiedSession) (fresh : Supply)
  (headers : List (String × Bytes)) (requestId : Uuid)

theorem listAlerts_answers (stored : WellStored registry) (fuel : Nat)
    (enough : registry.tables.alerts.length < 100 * fuel) (query : ListAlertsQuery) (world : World)
    (same : world.registry = registry) :
    (listAlerts unicode verify fuel fresh headers query requestId).Ensures (accessMachine lower) pid
      (Answers fun responses => ∃ reviewerId access, namedReviewer verify headers = some reviewerId ∧
        AccessIn registry reviewerId access ∧ (Lists unicode access query registry responses ↔
          ShortcutSafe access query registry)) world := by
  have turns : (PostgresAlertRepository.ordered query.filter registry).length < 100 * fuel := by
    have fewer := List.length_filter_le query.filter.admits registry.tables.alerts
    have sorted : (PostgresAlertRepository.ordered query.filter registry).length =
        (registry.tables.alerts.filter query.filter.admits).length := by
      rw [PostgresAlertRepository.ordered, List.length_reverse]
      exact (orderBy_perm _ _ _).length_eq
    omega
  apply answers_after _ _ _ _ world (actor_finds verify headers requestId world same)
  intro actor later kept named
  cases authorize actor .viewCase with
  | error _ => exact answers_refuse _ _ later
  | ok _ =>
      apply answers_after _ _ _ _ later (alertAccess_finds requestId actor later kept)
      intro access later kept granted
      obtain ⟨reviewerId, same, accessed⟩ := granted
      apply answers_after _ _ _ _ later
        (page_finds unicode access query stored requestId fuel turns later kept)
      intro alerts later _ found
      apply answers_audited
      exact ⟨reviewerId, access, named reviewerId same, accessed,
        lists_iff unicode access query stored alerts found⟩

theorem readingOf_findAlert (stored : WellStored registry) (alertId : AlertId) :
    Reading.Of lower registry (.incident (.findAlert alertId)) fun found => ∀ alert,
      found = some alert → ∃ row ∈ registry.tables.alerts, row.id = alertId ∧
        ReadsAs registry row alert := by
  have read : ∀ tie, ∃ found, PostgresAlertRepository.findById tie alertId registry.tables =
      .ok found ∧ ∀ alert, found = some alert → ∃ row ∈ registry.tables.alerts, row.id = alertId ∧
        ReadsAs registry row alert := by
    intro tie
    rw [PostgresAlertRepository.findById]
    cases there : lookup (·.id) alertId registry.tables.alerts with
    | none => exact ⟨none, rfl, fun _ clash => by cases clash⟩
    | some row =>
        have member := List.mem_of_find?_eq_some there
        have own : row.id = alertId := by simpa using List.find?_some there
        simp only [alertFieldsFromRows_ok]
        obtain ⟨alert, made⟩ := @alertFromRow_visible row
          ((orderBy (fun _ => 0) tie (registry.tables.alertFields.filter fun field =>
            field.alertId = alertId)).map fieldOfRow) (stored.visible row member)
        refine ⟨some alert, ?_, ?_⟩
        · simp only [bind, Except.bind, made, pure, Except.pure]
        · intro other same
          cases same
          refine ⟨row, member, own, _, ?_, made⟩
          rw [own]
          exact (orderBy_perm (fun _ => 0) tie _).map fieldOfRow
  constructor
  · intro env
    rfl
  · intro env failure failed
    obtain ⟨found, made, _⟩ := read env.fieldTie
    simp only [runCall, Incidents.runCall, query, made] at failed
    split at failed
    · exact (Except.error.inj failed).symm
    · cases failed
  · intro env value answered
    obtain ⟨found, made, holds⟩ := read env.fieldTie
    simp only [runCall, Incidents.runCall, query, made] at answered
    split at answered
    · cases answered
    · cases answered
      exact holds

theorem getAlert_answers (stored : WellStored registry) (alertId : AlertId) (world : World)
    (same : world.registry = registry) :
    (getAlert unicode verify fresh headers alertId requestId).Ensures (accessMachine lower) pid
      (Answers fun _ => ∃ reviewerId access row, namedReviewer verify headers = some reviewerId ∧
        AccessIn registry reviewerId access ∧ row ∈ registry.tables.alerts ∧ row.id = alertId ∧
          readable unicode access row = true) world := by
  apply answers_after _ _ _ _ world (actor_finds verify headers requestId world same)
  intro actor later kept named
  cases authorize actor .viewCase with
  | error _ => exact answers_refuse _ _ later
  | ok _ =>
      apply answers_after _ _ _ _ later (finds_ask _ (.incident (.findAlert alertId)) later kept
        (readingOf_findAlert stored alertId))
      intro found later kept there
      cases found with
      | none => exact answers_refuse _ _ later
      | some alert =>
          obtain ⟨row, member, own, reads⟩ := there alert rfl
          apply answers_after _ _ _ _ later (alertAccess_finds requestId actor later kept)
          intro access later kept granted
          obtain ⟨reviewerId, same, accessed⟩ := granted
          by_cases may : access.canRead unicode alert = true
          · rw [if_pos may]
            apply answers_audited
            exact ⟨reviewerId, access, row, named reviewerId same, accessed, member, own,
              (readable_eq reads).trans may⟩
          · rw [if_neg may]
            exact answers_refuse _ _ later

theorem on_some_page (access : Incidents.Alerts.AlertAccess) (filter : AlertFilter) (row : AlertRow)
    (member : row ∈ registry.tables.alerts) (admitted : filter.admits row = true)
    (may : readable unicode access row = true) (limit : Nat) (positive : 0 < limit) :
    ∃ number, row ∈ listed unicode access filter limit (number * limit) registry := by
  have there : row ∈ (PostgresAlertRepository.ordered filter registry).filter
      (readable unicode access) :=
    List.mem_filter.mpr ⟨mem_ordered.mpr ⟨member, admitted⟩, may⟩
  obtain ⟨place, within, found⟩ := List.mem_iff_getElem.mp there
  refine ⟨place / limit, mem_page limit _ (place % limit) _ row (Nat.mod_lt _ positive) ?_⟩
  rw [Nat.mul_comm, Nat.div_add_mod]
  exact List.getElem?_eq_some_iff.mpr ⟨within, found⟩

/-- What a listing is answered with is the specified page exactly where the shortcut is safe, and
every alert that the reviewer may get is on one of these pages. -/
theorem listing_specified_iff (lower : PostgresReviewerRepository.Lower) (unicode : UnicodeData)
    (verify : String → Option VerifiedSession) (fresh : Supply) (headers : List (String × Bytes))
    (requestId : Uuid) (pid : Nat) (envs : List Env) (registry : Registry)
    (stored : WellStored registry) (fuel : Nat)
    (enough : registry.tables.alerts.length < 100 * fuel) :
    (∀ query : ListAlertsQuery,
      let ended := (alone (accessMachine lower) pid envs
        (listAlerts unicode verify fuel fresh headers query requestId) (World.initial registry)).1
      (∀ message, ended ≠ some (.error (.panicked message))) ∧
        ∀ responses, ended = some (.ok responses) → ∃ reviewerId access,
          namedReviewer verify headers = some reviewerId ∧ AccessIn registry reviewerId access ∧
            (Lists unicode access query registry responses ↔ ShortcutSafe access query registry)) ∧
    ∀ alertId response, (alone (accessMachine lower) pid envs
        (getAlert unicode verify fresh headers alertId requestId) (World.initial registry)).1 =
          some (.ok response) →
      ∃ reviewerId access row, namedReviewer verify headers = some reviewerId ∧
        AccessIn registry reviewerId access ∧ row.id = alertId ∧
          ∀ filter : AlertFilter, filter.admits row = true → ∀ limit, 0 < limit →
            ∃ number, row ∈ listed unicode access filter limit (number * limit) registry := by
  constructor
  · intro query ended
    have answers := ensures_alone (accessMachine lower) pid _ _ _ (listAlerts_answers unicode verify
      fresh headers requestId stored fuel enough query (World.initial registry) rfl) envs
    exact ⟨answers.calm, answers.answered⟩
  · intro alertId response answered
    have answers := ensures_alone (accessMachine lower) pid _ _ _ (getAlert_answers unicode verify
      fresh headers requestId stored alertId (World.initial registry) rfl) envs
    obtain ⟨reviewerId, access, row, named, accessed, member, own, may⟩ :=
      answers.answered response answered
    refine ⟨reviewerId, access, row, named, accessed, own, ?_⟩
    intro filter admitted limit positive
    exact on_some_page unicode access filter row member admitted may limit positive

end Specified

namespace Scenario

open Access.Scenario

def unicode : UnicodeData := server.unicode

def ownAlert : AlertRow :=
  { id := ⟨30⟩, caseId := ⟨31⟩, policyId := "missing-child-community", policyVersion := 1
    incidentType := .missingChild, severity := .high, visibility := .community
    trigger := .caseVerified, targetGeography := "Douala", status := .active, aggregateVersion := 1
    idempotencyKeyHash := none, issuedByOrganizationId := some organizationId }

def issued : Registry :=
  { staffed with tables := { staffed.tables with alerts := [ownAlert] } }

def wholeQuery : ListAlertsQuery :=
  { filter := { status := none, visibility := none }, limit := none, offset := none }

def listing (token : String) : Option (Except HandlerError (List Incidents.Alerts.AlertResponse)) :=
  (alone (accessMachine lower) 0 (List.replicate 6 env) (listAlerts unicode server.verify 1 (Supply.of 0)
    (signedIn token) wholeQuery 9) (World.initial issued)).1

def getting (token : String) : Option (Except HandlerError Incidents.Alerts.AlertResponse) :=
  (alone (accessMachine lower) 0 (List.replicate 6 env) (getAlert unicode server.verify (Supply.of 0)
    (signedIn token) ⟨30⟩ 9) (World.initial issued)).1

theorem issued_stored : WellStored issued where
  unique := by decide
  visible := by
    intro row member
    rw [List.mem_singleton.mp member]
    decide +kernel

theorem issued_access (access : Incidents.Alerts.AlertAccess) (accessed : AccessIn issued 6 access) :
    access.membership = { role := .orgAdmin, organizationId := some organizationId } ∧
      access.subscriptions = [] := by
  have found : PostgresOrganizationRepository.findMembership 6 issued.tables =
      .ok (some { role := .orgAdmin, organizationId := some organizationId }) := by decide +kernel
  have membership : access.membership =
      { role := .orgAdmin, organizationId := some organizationId } := by
    have same := accessed.membership.symm.trans found
    exact Option.some.inj (Except.ok.inj same)
  have consumerless : ((PostgresOrganizationRepository.findById organizationId issued.tables).filter
      (·.isActive)).bind (·.consumerId) = none := by decide +kernel
  refine ⟨membership, ?_⟩
  obtain ⟨tie, subscriptions⟩ := accessed.subscriptions
  rw [accessed.organization, membership, Option.bind_some, consumerless] at subscriptions
  exact subscriptions

/-- The organization's admin may get the alert that the organization issued, and no listing shows it. -/
theorem own_alert_unlisted :
    (∃ response, getting "owner" = some (.ok response)) ∧
      ∃ responses, listing "owner" = some (.ok responses) ∧
        ∀ access, AccessIn issued 6 access → ¬ Lists unicode access wholeQuery issued responses := by
  constructor
  · have answered : (getting "owner").any (fun result => result.toBool) = true := by decide +kernel
    obtain ⟨result, same, good⟩ := (Option.any_eq_true _ _).mp answered
    cases result with
    | ok response => exact ⟨response, same⟩
    | error error => cases good
  · have answered : (listing "owner").any (fun result => result.toOption.any (·.isEmpty)) = true := by
      decide +kernel
    obtain ⟨result, same, empty⟩ := (Option.any_eq_true _ _).mp answered
    cases result with
    | error error => cases empty
    | ok responses =>
        have nothing : responses = [] := List.isEmpty_iff.mp empty
        refine ⟨responses, same, ?_⟩
        intro access accessed lists
        obtain ⟨membership, none⟩ := issued_access access accessed
        rw [Lists, nothing, List.forall₂_nil_right_iff, listed, readable_own unicode access wholeQuery
          issued_stored (by rw [membership]; decide) none, page_empty, ownAlerts, membership] at lists
        revert lists
        decide +kernel

def subscribed : Registry :=
  { issued with
    tables := { issued.tables with
      organizations := [{ PostgresOrganizationRepository.newRow organizationId with
        consumerId := some ⟨32⟩ }]
      subscriptions := [{ createdAt := 0, subscription :=
        { id := ⟨33⟩, consumerId := ⟨32⟩, version := 1
          rules := [.severity .greaterThanOrEqual .high], nonempty := by simp } }]
      alerts := [ownAlert, { ownAlert with id := ⟨34⟩, issuedByOrganizationId := none },
        { ownAlert with id := ⟨35⟩, severity := .low, issuedByOrganizationId := none }] } }

theorem subscribed_stored : WellStored subscribed where
  unique := by decide
  visible := by
    have places : subscribed.tables.alerts.map (·.targetGeography) = List.replicate 3 "Douala" := rfl
    intro row member blank
    have place := List.eq_of_mem_replicate (places ▸ List.mem_map_of_mem member)
    rw [place] at blank
    revert blank
    decide +kernel

/-- The scan passes over the alert that the reviewer may not read. -/
theorem listing_specified_subscriber : ∃ responses reviewerId access,
    (alone (accessMachine lower) 0 (List.replicate 12 env) (listAlerts unicode server.verify 1
        (Supply.of 0) (signedIn "owner") wholeQuery 9) (World.initial subscribed)).1 =
      some (.ok responses) ∧ responses.length = 2 ∧ AccessIn subscribed reviewerId access ∧
      (Lists unicode access wholeQuery subscribed responses ↔
        ShortcutSafe access wholeQuery subscribed) := by
  have answered : ((alone (accessMachine lower) 0 (List.replicate 12 env) (listAlerts unicode
      server.verify 1 (Supply.of 0) (signedIn "owner") wholeQuery 9) (World.initial subscribed)).1).any
      (fun result => result.toOption.any (·.length = 2)) = true := by
    decide +kernel
  obtain ⟨result, same, good⟩ := (Option.any_eq_true _ _).mp answered
  cases result with
  | error error => cases good
  | ok responses =>
      have specified := listing_specified_iff lower unicode server.verify (Supply.of 0)
        (signedIn "owner") 9 0 (List.replicate 12 env) subscribed subscribed_stored 1 (by decide)
      obtain ⟨reviewerId, access, _, accessed, exactly⟩ :=
        (specified.1 wholeQuery).2 responses same
      exact ⟨responses, reviewerId, access, same, of_decide_eq_true good, accessed, exactly⟩

end Scenario

end SafeCameroon.Access.AlertReading
