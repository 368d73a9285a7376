import SafeCameroon.Delivery.Announced
import SafeCameroon.Delivery.Settlement

namespace SafeCameroon

open Table Process

abbrev Call.Later (call : Call) : Prop := ¬ call.Takes

def Job.isMatching : Job → Prop
  | .matching _ _ => True
  | _ => False

/-- Errors of the database and shutdowns meet a matching worker only while it takes its events. -/
def promptRules (jobs : Nat → Job) : Rules deliveryMachine where
  mayCall := fun pid call env world => world.clock ≤ env.now ∧
    ((jobs pid).isMatching → ∀ failure, (runCall env call world.db).1 = .error failure → call.Takes)
  mayHalt := fun pid call _ => (jobs pid).isMatching → call.Takes

/-- No worker is inside a batch of events. -/
def MatchingIdle (jobs : Nat → Job) (config : Pool) : Prop :=
  ∀ pid, (jobs pid).isMatching → (config.slots pid).running = false

/-- The event waits for a worker: it is not published, and a claim with room for it takes it. -/
structure Untaken (db : Db) (row : OutboxRow) : Prop where
  unpublished : row.publishedAt = none
  claimed : ∀ now tie limit, db.outboxEvents.length ≤ limit → ∃ events after,
    PostgresOutboxRepository.claimUnpublished now tie [] SubscriptionMatching.alertCreatedEventType
      limit db = .ok (.commit events after) ∧ row.id ∈ events.map (·.id)

def AlertAnnounced (db : Db) (id : AlertId) : Prop :=
  ∃ row ∈ db.outboxEvents, row.eventType = SubscriptionMatching.alertCreatedEventType ∧
    row.aggregateId = id.uuid

/-- The requests that create alerts carry the event that announces them. -/
def Announcing (jobs : Nat → Job) : Prop :=
  ∀ pid creation, jobs pid = .edit (.createAlert creation) →
    creation.event.eventType = .alertCreated

/-- Every announcement is published and its alert planned in full, or it waits for a worker. -/
def NoneLost (setup : WorkerSetup) (world : World) : Prop :=
  ∀ row ∈ world.db.outboxEvents, row.eventType = SubscriptionMatching.alertCreatedEventType →
    row.publishedAt ≠ none ∧ InFull setup world ⟨row.aggregateId⟩ ∨ Untaken world.db row

theorem mem_claimUnpublished (now : Timestamp) (tie : Uuid → Nat) (limit : Nat) (db : Db)
    (room : db.outboxEvents.length ≤ limit) (id : Uuid) : ∃ events after,
    PostgresOutboxRepository.claimUnpublished now tie [] SubscriptionMatching.alertCreatedEventType
        limit db = .ok (.commit events after) ∧
      (id ∈ events.map (·.id) ↔ ∃ row ∈ db.outboxEvents, row.id = id ∧
        PostgresOutboxRepository.claimable SubscriptionMatching.alertCreatedEventType row) := by
  refine ⟨_, _, rfl, ?_⟩
  have whole : ∀ rows : List OutboxRow, rows.length ≤ limit → rows.take limit = rows :=
    fun rows fits => List.take_of_length_le fits
  rw [List.map_map, whole]
  · simp only [List.mem_map, mem_orderBy, List.mem_filter]
    constructor
    · rintro ⟨row, ⟨member, free⟩, same⟩
      exact ⟨row, member, same, by simpa using free⟩
    · rintro ⟨row, member, same, free⟩
      exact ⟨row, ⟨member, by simpa using free⟩, same⟩
  · rw [(orderBy_perm _ _ _).length_eq]
    exact (List.length_filter_le _ _).trans room

/-- An announcement waits for a worker exactly when nobody has published or taken it. -/
theorem untaken_iff (db : Db) (distinct : (db.outboxEvents.map (·.id)).Nodup) (row : OutboxRow)
    (member : row ∈ db.outboxEvents)
    (type : row.eventType = SubscriptionMatching.alertCreatedEventType) :
    Untaken db row ↔ row.publishedAt = none ∧ row.claimedAt = none := by
  constructor
  · intro untaken
    obtain ⟨events, after, claims, taken⟩ := untaken.claimed 0 (fun _ => 0) _ le_rfl
    obtain ⟨others, later, again, known⟩ := mem_claimUnpublished 0 (fun _ => 0) _ db le_rfl row.id
    obtain ⟨rfl, rfl⟩ := Ending.commit.inj (Except.ok.inj (claims.symm.trans again))
    obtain ⟨stored, inTable, same, free⟩ := known.mp taken
    obtain rfl := eq_of_key (·.id) _ distinct stored row inTable member same
    simp only [PostgresOutboxRepository.claimable, Bool.and_eq_true, Option.isNone_iff_eq_none] at free
    exact ⟨untaken.unpublished, free.2⟩
  · rintro ⟨unpublished, unclaimed⟩
    refine ⟨unpublished, fun now tie limit room => ?_⟩
    obtain ⟨events, after, claims, known⟩ := mem_claimUnpublished now tie limit db room row.id
    refine ⟨events, after, claims, known.mpr ⟨row, member, rfl, ?_⟩⟩
    simp [PostgresOutboxRepository.claimable, type, unpublished, unclaimed]

section Batch

open Proc

variable (jobs : Nat → Job)

/-- A process takes events before it does anything else, and only to plan their alerts. -/
def TakesFirst (pid : Nat) (past : List (Exchange deliveryInterface)) (call : Call) : Prop :=
  call.Takes → (jobs pid).isMatching ∧ past = []

/-- Every event that the process took is published, unless a call of the process failed. -/
def Relayed (past : List (Exchange deliveryInterface)) : Prop :=
  (∃ exchange ∈ past, ∃ failure, exchange.answer = .error failure) ∨
    ∀ event, Took past event → Heard past (.markPublished event.id) ()

def Relays (pid : Nat) (past : List (Exchange deliveryInterface)) (_ : Except JobError Unit) : Prop :=
  (jobs pid).isMatching → Relayed past

theorem later_plans (call : Call) (plans : call.Plans) : call.Later := by
  intro takes
  cases call with
  | claimUnpublished eventType limit => exact plans
  | _ => exact takes

/-- One turn of the loop over the events that were taken. -/
abbrev relay (setup : WorkerSetup) (fresh : Supply) (element : ClaimedOutboxEvent × Nat) :
    Worker Unit :=
  (SubscriptionMatching.matchAndPlan setup (fresh.part element.2) ⟨element.1.aggregateId⟩).bind
    fun _ => ask (.markPublished element.1.id)

theorem relay_marks (setup : WorkerSetup) (fresh : Supply) (element : ClaimedOutboxEvent × Nat)
    (past : List (Exchange deliveryInterface)) :
    (relay setup fresh element).Yields (fun _ (call : Call) => call.Later)
      (fun later _ => Heard later (.markPublished element.1.id) ()) past := by
  refine yields_bind (fun _ _ => True) _ _ _ past
    (yields_uses _ _ (fun _ => later_plans) _ (matchAndPlan_calls setup _ _) past) ?_
  intro later _ _ _
  exact yields_ask (I := deliveryInterface) (.markPublished element.1.id) _ WorkerError.repository
    later id fun _ => List.mem_cons_self

theorem relays (setup : WorkerSetup) (fresh : Supply) (events : List ClaimedOutboxEvent)
    (past : List (Exchange deliveryInterface)) :
    (Proc.forEach (relay setup fresh) events.zipIdx).Yields (fun _ (call : Call) => call.Later)
      (fun later _ => ∀ event ∈ events, Heard later (.markPublished event.id) ()) past := by
  refine yields_weaken _ _ _ _ (yields_forEach_all
    (fun later (element : ClaimedOutboxEvent × Nat) => Heard later (.markPublished element.1.id) ())
    (fun _ _ _ grown heard => grown heard) _ _ past
    fun element _ now _ => relay_marks setup fresh element now) ?_
  intro later _ _ all event member
  rw [← List.zipIdx_map_fst 0 events] at member
  obtain ⟨element, indexed, rfl⟩ := List.mem_map.mp member
  exact all element indexed

theorem loadPreferences_raises (matched : List ConsumerMatch)
    (past : List (Exchange deliveryInterface)) :
    (SubscriptionMatching.loadPreferences matched).Raises past := by
  induction matched generalizing past with
  | nil => exact raises_done _ _
  | cons head tail ih =>
      refine raises_bind _ _ past (raises_perform _ _ past) fun later preference => ?_
      refine raises_bind _ _ later (ih later) fun last preferences => ?_
      cases preference with
      | none => exact raises_done _ _
      | some preference => exact raises_done _ _

theorem matchAndPlan_raises (setup : WorkerSetup) (fresh : Supply) (alertId : AlertId)
    (past : List (Exchange deliveryInterface)) :
    (SubscriptionMatching.matchAndPlan setup fresh alertId).Raises past := by
  refine raises_bind _ _ past (raises_perform _ _ past) fun later found => ?_
  cases found with
  | none => exact raises_done _ _
  | some alert =>
      refine raises_bind _ _ later (raises_perform _ _ later) fun listed subscriptions => ?_
      dsimp only
      split
      · exact raises_done _ _
      · refine raises_bind _ _ listed (loadPreferences_raises _ listed) fun loaded preferences => ?_
        exact raises_forEach _ _ loaded fun _ now => raises_perform _ _ now

theorem matching_raises (setup : WorkerSetup) (fresh : Supply) (batchSize : Nat)
    (past : List (Exchange deliveryInterface)) :
    (SubscriptionMatching.processBatch setup fresh batchSize).Raises past := by
  refine raises_bind _ _ past (raises_perform _ _ past) fun later events => ?_
  refine raises_bind _ _ later (raises_forEach _ _ later fun element now => ?_)
    fun _ _ => raises_done _ _
  exact raises_bind _ _ now (matchAndPlan_raises setup _ _ now) fun _ _ => raises_perform _ _ _

theorem took_first {limit : Nat} {events : List ClaimedOutboxEvent} {event : ClaimedOutboxEvent}
    (took : Took [⟨.claimUnpublished SubscriptionMatching.alertCreatedEventType limit, .ok events⟩]
      event) : event ∈ events := by
  obtain ⟨asked, taken, heard, member⟩ := took
  rw [Heard, List.mem_singleton] at heard
  obtain ⟨same, answer⟩ := Exchange.mk.inj heard
  obtain ⟨_, rfl⟩ := Call.claimUnpublished.inj same
  obtain rfl := Except.ok.inj (eq_of_heq answer)
  exact member

theorem took_later {past : List (Exchange deliveryInterface)} {call : Call}
    {answer : Except Failure call.Res} (later : call.Later) {event : ClaimedOutboxEvent}
    (took : Took (⟨call, answer⟩ :: past) event) : Took past event := by
  obtain ⟨limit, taken, heard, member⟩ := took
  rcases List.mem_cons.mp heard with latest | old
  · obtain ⟨rfl, _⟩ := Exchange.mk.inj latest
    exact absurd trivial later
  · exact ⟨limit, taken, old, member⟩

/-- A batch that succeeds has published every event that it took. -/
theorem matching_relays (setup : WorkerSetup) (fresh : Supply) (batchSize pid : Nat)
    (matching : (jobs pid).isMatching) :
    (SubscriptionMatching.processBatch setup fresh batchSize).Yields (TakesFirst jobs pid)
      (fun later _ => ∀ event, Took later event → Heard later (.markPublished event.id) ()) [] := by
  refine yields_perform _ _ _ _ [] (fun _ => ⟨matching, rfl⟩) fun events => ?_
  have rest : (Proc.forEach (relay setup fresh) events.zipIdx).Uses Call.Later :=
    uses_forEach _ _ _ fun element _ => uses_bind _ _ _
      (uses_mono later_plans _ (matchAndPlan_calls setup _ _)) fun _ => uses_ask _ _ id
  have kept := honest_uses (fun _ (call : Call) => call.Later)
    (fun past => ∀ event, Took past event → event ∈ events) Call.Later (fun _ _ _ later => later)
    (fun _ _ _ known later event took => known event (took_later later took)) _ rest
    [⟨.claimUnpublished SubscriptionMatching.alertCreatedEventType batchSize, .ok events⟩]
    fun _ => took_first
  have both := honest_and _ _ _ _ (relays setup fresh events _) kept
  refine yields_bind (fun later _ => ∀ event, Took later event →
    Heard later (.markPublished event.id) ()) _ _ _ _ ?_ fun _ _ _ done => yields_done _ _ _ done
  refine honest_post _ _ ?_ _ _ (honest_allow _ ?_ _ _ both)
  · intro later result facts
    refine ⟨facts.1.1, fun value same event took => ?_⟩
    exact facts.1.2 value same event (facts.2.1 event took)
  · intro past call allowed takes
    exact absurd takes allowed.1

variable (deployment : Deployment)

theorem matching_relayed (setup : WorkerSetup) (fresh : Supply) (batchSize pid : Nat)
    (matching : (jobs pid).isMatching) :
    (SubscriptionMatching.processBatch setup fresh batchSize).Honest (TakesFirst jobs pid)
      (fun later _ => Relayed later) [] := by
  have both := honest_and _ _ _ _ (matching_relays jobs setup fresh batchSize pid matching)
    (matching_raises setup fresh batchSize [])
  refine honest_post _ _ ?_ _ _ (honest_allow _ (fun _ _ allowed => allowed.1) _ _ both)
  intro later result facts
  cases result with
  | ok value => exact Or.inr (facts.1.2 value rfl)
  | error error => exact Or.inl (facts.2 error rfl)

theorem pool_relays (pid : Nat) :
    (deployment.pool jobs pid).Honest (TakesFirst jobs pid) (Relays jobs pid) [] := by
  have idle : ∀ program : Proc deliveryInterface JobError Unit, program.Uses Call.Later →
      ¬(jobs pid).isMatching → program.Honest (TakesFirst jobs pid) (Relays jobs pid) [] := by
    intro program uses other
    refine honest_post _ _ (fun _ _ _ matching => absurd matching other) _ _
      (yields_uses _ _ ?_ program uses [])
    intro past call later takes
    exact absurd takes later
  cases job : jobs pid with
  | matching fresh batchSize =>
      have matching : (jobs pid).isMatching := by
        rw [job]
        trivial
      simp only [Deployment.pool, job, Deployment.run]
      apply honest_mapError
      refine honest_bind _ _ _ _ []
        (matching_relayed jobs deployment.setup fresh batchSize pid matching) ?_ ?_
      · exact fun _ _ relayed _ => relayed
      · exact fun _ _ relayed _ => relayed
  | dispatch fresh batchSize =>
      simp only [Deployment.pool, job, Deployment.run]
      apply idle
      · refine uses_mapError _ _ _ (uses_bind _ _ _ (uses_mono ?_ _ (dispatch_calls _ _ _))
          fun _ => trivial)
        intro call dispatches takes
        cases call with
        | claimUnpublished eventType limit => exact dispatches
        | _ => exact takes
      · rw [job]
        exact id
  | webhook fresh request =>
      simp only [Deployment.pool, job, Deployment.run]
      apply idle
      · refine uses_mapError _ _ _ (uses_mono ?_ _ (serve_calls _ _ _))
        intro call serves takes
        cases call with
        | claimUnpublished eventType limit => exact serves
        | _ => exact takes
      · rw [job]
        exact id
  | edit edit =>
      simp only [Deployment.pool, job, Deployment.run]
      apply idle
      · exact uses_perform _ _ _ id
      · rw [job]
        exact id

/-- Requests are made by the processes whose job they are. -/
theorem pool_edits (pid : Nat) :
    (deployment.pool jobs pid).Uses
      fun call : Call => ∀ edit, call = .edit edit → jobs pid = .edit edit := by
  cases job : jobs pid with
  | matching fresh batchSize =>
      simp only [Deployment.pool, job, Deployment.run]
      refine uses_mapError _ _ _ (uses_bind _ _ _ (uses_mono ?_ _ (matching_calls _ _ _))
        fun _ => trivial)
      rintro call made edit rfl
      exact (made.elim id id : False).elim
  | dispatch fresh batchSize =>
      simp only [Deployment.pool, job, Deployment.run]
      refine uses_mapError _ _ _ (uses_bind _ _ _ (uses_mono ?_ _ (dispatch_calls _ _ _))
        fun _ => trivial)
      rintro call dispatches edit rfl
      exact False.elim dispatches
  | webhook fresh request =>
      simp only [Deployment.pool, job, Deployment.run]
      refine uses_mapError _ _ _ (uses_mono ?_ _ (serve_calls _ _ _))
      rintro call serves edit rfl
      exact False.elim serves
  | edit edit =>
      simp only [Deployment.pool, job, Deployment.run]
      refine uses_perform _ _ _ fun other same => ?_
      cases same
      rfl

end Batch

/-- What the outbox shows goes back to the calls that were made, and what they did it shows. -/
structure Followed (world : World) : Prop where
  claimed : ∀ row ∈ world.db.outboxEvents, row.claimedAt ≠ none →
    ∃ entry ∈ world.history, ∃ event ∈ entry.call.taken entry.answer, event.id = row.id
  marked : ∀ pid id time before,
    (⟨pid, .markPublished id, .ok (), time, before⟩ : Entry) ∈ world.history →
      ∃ row ∈ world.db.outboxEvents, row.id = id ∧ row.publishedAt ≠ none
  alerted : ∀ alert ∈ world.db.alerts, AlertAnnounced world.db alert.id ∨
    ∃ entry ∈ world.history, ∃ creation, entry.call = .edit (.createAlert creation) ∧
      creation.event.eventType ≠ .alertCreated

section Step

variable {deployment : Deployment} {jobs : Nat → Job} {world : World} {pid : Nat} {call : Call}
  {env : Env}

theorem markPublished_marks (env : Env) (id : Uuid) (db : Db) (row : OutboxRow)
    (member : row ∈ db.outboxEvents) (same : row.id = id)
    (answer : (runCall env (.markPublished id) db).1 = .ok ()) :
    ∃ later ∈ (runCall env (.markPublished id) db).2.outboxEvents, later.id = id ∧
      later.publishedAt ≠ none := by
  rcases transaction_ok _ _ _ _ _ answer with ⟨rolled, _⟩ | ⟨after, result, ended⟩
  · simp [PostgresOutboxRepository.markPublished, pure, Except.pure] at rolled
  · simp only [PostgresOutboxRepository.markPublished, pure, Except.pure, Except.ok.injEq,
      Ending.commit.injEq] at result
    obtain ⟨_, rfl⟩ := result
    rw [runCall, ended]
    refine ⟨{ row with publishedAt := some env.now }, ?_, same, by simp⟩
    exact mem_updateWhere _ _ _ _ |>.mpr ⟨row, member, Or.inl ⟨decide_eq_true same, rfl⟩⟩

theorem Followed.execute (followed : Followed world) (lineage : Lineage deployment jobs world)
    (agrees : Agrees world) (informed : Informed world.db call)
    (grounded : deployment.grounds jobs pid (world.trace pid) call) :
    Followed (world.execute pid call env).2 := by
  obtain ⟨announces, alerts⟩ := informed.announces agrees.ledger env
  have outbox := announces.goesOn alerts lineage.distinct lineage.announced
  constructor
  case claimed =>
    intro later member claimed
    rcases outbox.claimed later member claimed with ⟨row, old, same, before⟩ | ⟨event, taken, same⟩
    · obtain ⟨entry, recorded, event, taken, named⟩ := followed.claimed row old before
      exact ⟨entry, List.mem_cons_of_mem _ recorded, event, taken, named.trans same⟩
    · exact ⟨_, List.mem_cons_self, event, taken, same⟩
  case marked =>
    intro owner id time before member
    rcases List.mem_cons.mp member with latest | old
    · obtain ⟨rfl, rfl, answer, _, _⟩ := Entry.mk.inj latest
      obtain ⟨event, took, rfl, _⟩ := grounded
      obtain ⟨row, inTable, named, _⟩ := lineage.took took
      exact markPublished_marks env event.id world.db row inTable named (eq_of_heq answer).symm
    · obtain ⟨row, inTable, named, published⟩ := followed.marked owner id time before old
      obtain ⟨later, there, same, _, _, _, still⟩ := outbox.kept row inTable
      exact ⟨later, there, same.trans named, still published⟩
  case alerted =>
    intro later member
    rcases informed.alertsFrom agrees.ledger env later member with
      ⟨alert, old, same⟩ | ⟨creation, made, row, inTable, aggregate, type⟩
    · rw [← same]
      rcases followed.alerted alert old with ⟨row, inTable, type, aggregate⟩ | ⟨entry, recorded, other⟩
      · obtain ⟨kept, there, _, sameAggregate, sameType, _⟩ := outbox.kept row inTable
        exact Or.inl ⟨kept, there, sameType.trans type, sameAggregate.trans aggregate⟩
      · exact Or.inr ⟨entry, List.mem_cons_of_mem _ recorded, other⟩
    · by_cases announced : creation.event.eventType = .alertCreated
      · exact Or.inl ⟨row, inTable, by rw [type, announced]; rfl, aggregate⟩
      · exact Or.inr ⟨_, List.mem_cons_self, creation, made, announced⟩

end Step

theorem reach_followed (deployment : Deployment) (jobs : Nat → Job) (init : Db)
    (initial : init.Initial) (config : Pool)
    (reached : deployment.Reaches jobs clockRules init config) :
    Followed config.state ∧ Lineage deployment jobs config.state := by
  have grounded := reach_grounded deployment jobs clockRules init config reached
  have watched := groundedRules_watched deployment jobs
  refine reach_invariant deployment jobs watched init initial
    (fun world => Followed world ∧ Lineage deployment jobs world) ?_ ?_ config grounded
  · refine ⟨⟨?_, ?_, ?_⟩, lineage_initial deployment jobs init initial⟩
    · intro row member
      simp [World.initial, initial.outboxEvents] at member
    · intro pid id time before member
      cases member
    · intro alert member
      simp [World.initial, initial.alerts] at member
  · intro world pid call env exclusive proper legal both
    have informed := Proper.informed deployment.setup (jobs pid) pid world call exclusive.agrees proper
    exact ⟨both.1.execute both.2 exclusive.agrees informed legal.2,
      lineage_execute exclusive.agrees informed legal.2 both.2⟩

theorem each_announced (deployment : Deployment) (jobs : Nat → Job) (init : Db)
    (initial : init.Initial) (config : Pool)
    (reached : deployment.Reaches jobs clockRules init config) (announcing : Announcing jobs)
    (alert : AlertRow) (member : alert ∈ config.state.db.alerts) :
    AlertAnnounced config.state.db alert.id := by
  obtain ⟨followed, _⟩ := reach_followed deployment jobs init initial config reached
  rcases followed.alerted alert member with announced | ⟨entry, recorded, creation, made, other⟩
  · exact announced
  · have justified := justified_reach recordedCalls clockRules
      (fun pid _ (call : Call) => ∀ edit, call = .edit edit → jobs pid = .edit edit) _ _
      (fun pid => Proc.yields_uses _ _ (fun _ _ allowed => allowed) _ (pool_edits jobs deployment pid)
        [])
      _ (told_initial _ _ init) (fun _ => rfl) config reached entry.pid
    have traced : ⟨entry.call, entry.answer⟩ ∈ config.state.trace entry.pid :=
      List.mem_map.mpr ⟨entry, List.mem_filter.mpr ⟨recorded, by simp⟩, rfl⟩
    obtain ⟨_, _, _, own⟩ := justified.mem traced
    exact absurd (announcing entry.pid creation (own _ made)) other

section Runs

variable (deployment : Deployment) (jobs : Nat → Job) (init : Db) (config : Pool)
  (reached : deployment.Reaches jobs (promptRules jobs) init config)

include reached

theorem prompt_clock : deployment.Reaches jobs clockRules init config := by
  refine reach_strengthen (promptRules jobs) _ _ _ ?_ config reached
  intro middle label _ legal
  cases label with
  | start pid => trivial
  | halt pid => exact fun _ _ _ => trivial
  | call pid env => exact fun call next slot => (legal call next slot).1

theorem prompt_errors (entry : Entry) (member : entry ∈ config.state.history)
    (matching : (jobs entry.pid).isMatching) (failure : Failure)
    (failed : entry.answer = .error failure) : entry.call.Takes := by
  refine reach_holds (promptRules jobs) _ _ (fun world : World => ∀ entry ∈ world.history,
    (jobs entry.pid).isMatching → ∀ failure, entry.answer = .error failure → entry.call.Takes)
    ?_ ?_ config reached entry member matching failure failed
  · intro entry none
    cases none
  · intro pid call env world allowed known entry member matching failure failed
    rcases List.mem_cons.mp member with rfl | old
    · exact allowed.2 matching failure failed
    · exact known entry old matching failure failed

theorem takes_first (pid : Nat) : Justified (TakesFirst jobs pid) (config.state.trace pid) :=
  justified_reach recordedCalls (promptRules jobs) (TakesFirst jobs) (Relays jobs) _
    (pool_relays jobs deployment) _ (told_initial _ _ init) (fun _ => rfl) config reached pid

/-- A matching worker that is not at work took nothing, or it finished its batch. -/
theorem relayed_idle (pid : Nat) (matching : (jobs pid).isMatching)
    (idle : (config.slots pid).running = false) :
    config.state.trace pid = [] ∨ Relayed (config.state.trace pid) := by
  have honest := pool_relays jobs deployment
  have told := told_reach recordedCalls (promptRules jobs) (TakesFirst jobs) (Relays jobs) _ honest _
    (told_initial _ _ init) config reached pid
  cases slot : config.slots pid with
  | waiting =>
      simp only [Told, slot] at told
      exact Or.inl told
  | gone =>
      obtain ⟨op, state, halted, proper⟩ := gone_told recordedCalls (promptRules jobs)
        (TakesFirst jobs) (Relays jobs) _ honest _ (told_initial _ _ init)
        (fun _ => by simp [initially]) config reached pid slot
      exact Or.inl (proper (halted matching)).2
  | active rest =>
      simp only [Told, slot] at told
      cases rest with
      | done value => exact Or.inr (told matching)
      | fail error => exact Or.inr (told matching)
      | call op next => simp [slot, Slot.running] at idle

/-- A process that is not at work has published every event that it took. -/
theorem took_published (pid : Nat) (matching : (jobs pid).isMatching)
    (idle : (config.slots pid).running = false) (event : ClaimedOutboxEvent)
    (took : Took (config.state.trace pid) event) :
    Heard (config.state.trace pid) (.markPublished event.id) () := by
  have justified := takes_first deployment jobs init config reached pid
  obtain ⟨limit, events, heard, member⟩ := took
  rcases relayed_idle deployment jobs init config reached pid matching idle with
    none | ⟨exchange, made, failure, failed⟩ | all
  · rw [none] at heard
    cases heard
  · -- The call that failed took events, and so did this one: both are the first of the process.
    obtain ⟨later, past, split, first⟩ := justified.mem heard
    obtain rfl : past = [] := (first trivial).2
    obtain ⟨time, before, recorded⟩ := World.mem_trace pid config.state _ exchange.answer made
    have takes := prompt_errors deployment jobs init config reached _ recorded matching failure failed
    obtain ⟨recent, older, again, alone⟩ := justified.mem made
    obtain rfl : older = [] := (alone takes).2
    obtain ⟨rfl, _⟩ := List.cons.inj (List.append_inj' (split.symm.trans again) rfl).2
    cases failed
  · exact all event ⟨limit, events, heard, member⟩

/-- Once no worker is inside a batch, every event that was taken is published. -/
theorem claimed_published (initial : init.Initial) (idle : MatchingIdle jobs config)
    (row : OutboxRow) (member : row ∈ config.state.db.outboxEvents)
    (claimed : row.claimedAt ≠ none) : row.publishedAt ≠ none := by
  have clocked := prompt_clock deployment jobs init config reached
  obtain ⟨followed, lineage⟩ := reach_followed deployment jobs init initial config clocked
  obtain ⟨⟨pid, call, answer, time, before⟩, recorded, event, taken, same⟩ :=
    followed.claimed row member claimed
  cases call with
  | claimUnpublished eventType limit =>
      cases answer with
      | error failure => cases taken
      | ok events =>
          have asked : eventType = SubscriptionMatching.alertCreatedEventType :=
            lineage.founded _ recorded
          subst asked
          have heard := heard_of_mem recorded
          obtain ⟨_, _, first⟩ := (takes_first deployment jobs init config reached pid).earlier heard
          have matching : (jobs pid).isMatching := (first trivial).1
          have published := took_published deployment jobs init config reached pid matching
            (idle pid matching) event ⟨limit, events, heard, taken⟩
          obtain ⟨moment, tables, marked⟩ := World.mem_trace pid config.state _ _ published
          obtain ⟨stored, inTable, named, marks⟩ := followed.marked pid event.id _ _ marked
          have key : row.id = stored.id := calc
            row.id = event.id := same.symm
            _ = stored.id := named.symm
          have one := eq_of_key (·.id) _ lineage.distinct row stored member inTable key
          exact one ▸ marks
  | _ => cases taken

end Runs

/-- When errors and shutdowns meet matching workers only while they take events, no alert is lost:
each is announced, and once no worker is inside a batch it is planned in full or waits for a worker. -/
theorem no_alert_lost (deployment : Deployment) (jobs : Nat → Job) (init : Db)
    (initial : init.Initial) (config : Pool)
    (reached : deployment.Reaches jobs (promptRules jobs) init config)
    (idle : MatchingIdle jobs config) : NoneLost deployment.setup config.state ∧
      (Announcing jobs → ∀ alert ∈ config.state.db.alerts,
        AlertAnnounced config.state.db alert.id) := by
  have clocked := prompt_clock deployment jobs init config reached
  obtain ⟨_, lineage⟩ := reach_followed deployment jobs init initial config clocked
  refine ⟨?_, each_announced deployment jobs init initial config clocked⟩
  intro row member type
  by_cases published : row.publishedAt = none
  · have unclaimed : row.claimedAt = none := by
      by_contra claimed
      exact claimed_published deployment jobs init config reached initial idle row member claimed
        published
    exact Or.inr ((untaken_iff _ lineage.distinct row member type).mpr ⟨published, unclaimed⟩)
  · exact Or.inl ⟨published, (lineage.inFull row member published).2⟩

section Scenario

open Scenario

/-- Two workers at the announcements. -/
def relayJobs : Nat → Job
  | 0 => .edit (.createAlert creation)
  | 1 => .matching (Supply.of 1) 10
  | _ => .matching (Supply.of 2) 10

def takes : Call → Bool
  | .claimUnpublished _ _ => true
  | _ => false

theorem sparing_prompt (config : Pool) (label : Label Env) (h : sparing takes config label = true) :
    (promptRules relayJobs).legal config label := by
  refine sparing_sound (promptRules relayJobs) takes ?_ config label h
  intro pid call env world timely errors
  refine ⟨timely, fun _ failure failed => ?_⟩
  have spared := errors failure failed
  cases call <;> trivial

theorem relayJobs_announcing : Announcing relayJobs := by
  intro pid created same
  rcases pid with _ | _ | pid
  · cases same
    rfl
  · cases same
  · cases same

/-- A worker fails to take the event of a new alert, and another plans it. -/
theorem no_alert_lost_planned : ∃ config : Pool,
    (∃ row ∈ config.state.db.outboxEvents,
      row.eventType = SubscriptionMatching.alertCreatedEventType ∧ row.publishedAt ≠ none) ∧
    NoneLost deployment.setup config.state ∧
    ∀ alert ∈ config.state.db.alerts, AlertAnnounced config.state.db alert.id := by
  obtain ⟨config, reached, holds, waiting⟩ := play_reaches (deployment.pool relayJobs)
    (initially (World.initial store) : Pool) (sparing takes) sparing_prompt
    (runs 0 1 1 ++ [.start 1, .call 1 (faulty 10)] ++ runs 2 7 20)
    (fun config => config.state.db.outboxEvents.any (fun row => row.publishedAt.isSome &&
      decide (row.eventType = SubscriptionMatching.alertCreatedEventType)) &&
        config.idleBelow 3)
    (by decide +kernel)
  simp only [Bool.and_eq_true, List.any_eq_true, decide_eq_true_eq] at holds
  obtain ⟨⟨row, member, published, type⟩, idle⟩ := holds
  have quiet : MatchingIdle relayJobs config := fun pid _ =>
    idle_played idle (by decide) waiting pid
  obtain ⟨noneLost, announced⟩ :=
    no_alert_lost deployment relayJobs store store_initial config reached quiet
  exact ⟨config, ⟨row, member, type, Option.isSome_iff_ne_none.mp published⟩, noneLost,
    announced relayJobs_announcing⟩

/-- A worker takes the event of a new alert and cannot read the alert: the event is taken no more. -/
theorem alert_lost_by_error : ∃ config : Pool,
    deployment.Reaches relayJobs clockRules store config ∧ MatchingIdle relayJobs config ∧
      ¬ NoneLost deployment.setup config.state := by
  obtain ⟨config, reached, holds, waiting⟩ := play_reaches (deployment.pool relayJobs)
    (initially (World.initial store) : Pool) timely timely_sound
    (runs 0 1 1 ++ [.start 1, .call 1 (env 10), .call 1 (faulty 11)])
    (fun config => config.state.db.outboxEvents.any (fun row => row.claimedAt.isSome &&
      row.publishedAt.isNone &&
      decide (row.eventType = SubscriptionMatching.alertCreatedEventType)) &&
        config.idleBelow 3)
    (by decide +kernel)
  simp only [Bool.and_eq_true, List.any_eq_true, decide_eq_true_eq] at holds
  obtain ⟨⟨row, member, ⟨claimed, unpublished⟩, type⟩, idle⟩ := holds
  refine ⟨config, reached, fun pid _ => idle_played idle (by decide) waiting pid, ?_⟩
  intro none
  rcases none row member type with ⟨published, _⟩ | untaken
  · exact published (Option.isNone_iff_eq_none.mp unpublished)
  · obtain ⟨_, lineage⟩ := reach_followed deployment relayJobs store store_initial config reached
    have unclaimed := ((untaken_iff _ lineage.distinct row member type).mp untaken).2
    exact Option.isSome_iff_ne_none.mp claimed unclaimed

end Scenario

end SafeCameroon
