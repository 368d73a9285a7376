import SafeCameroon.Delivery.Pool
import SafeCameroon.Infrastructure.Providers
import SafeCameroon.Worker.DispatchReports

namespace SafeCameroon

open Table Process DeliveryLife

/-- Time does not run backwards, and the adapters answer by what their providers do: the message handed
over as the n-th meets the n-th outcome. -/
def providerRules (libraries : HttpLibraries) (outcomes : Nat → HttpOutcome) :
    Rules deliveryMachine where
  mayCall := fun _ call env world => world.clock ≤ env.now ∧ match call with
    | .send _ _ channel message => ∀ adapter, httpChannel channel = some adapter →
        env.reply = adapter.send libraries message (outcomes (sends world.history).length)
    | _ => True
  mayHalt := fun _ _ _ => True

def faultless (rules : Rules deliveryMachine) : Rules deliveryMachine where
  mayCall := fun pid call env world => rules.mayCall pid call env world ∧ env.fault = false
  mayHalt := fun _ _ _ => False

/-- What else the rules say of a message whose provider answers with a success: its body can be read,
or the delivery has no attempt left. -/
def Readable2xx (libraries : HttpLibraries) (outcome : HttpOutcome) (world : World) : Call → Prop
  | .send id attempt channel message => ∀ adapter, httpChannel channel = some adapter →
      adapter.acknowledges message outcome = true → adapter.readable libraries outcome = true ∨
        ∀ row ∈ world.db.deliveries, row.id = id → row.maxAttempts ≤ attempt
  | _ => True

def readableRules (libraries : HttpLibraries) (outcomes : Nat → HttpOutcome) :
    Rules deliveryMachine where
  mayCall := fun pid call env world => (providerRules libraries outcomes).mayCall pid call env world ∧
    Readable2xx libraries (outcomes (sends world.history).length) world call
  mayHalt := fun _ _ _ => True

/-- The provider acknowledged the message of the attempt, which was handed over after the older
calls. -/
structure Acknowledged (outcomes : Nat → HttpOutcome) (id : DeliveryId) (attempt : Nat)
    (entry : Entry) (older : List Entry) : Prop where
  sent : ∃ channel message adapter, entry.call = .send id attempt channel message ∧
    httpChannel channel = some adapter ∧
    adapter.acknowledges message (outcomes (sends older).length) = true

def FinalOnceAcknowledged (outcomes : Nat → HttpOutcome) (history : List Entry) : Prop :=
  ∀ recent entry older id attempt, history = recent ++ entry :: older →
    Acknowledged outcomes id attempt entry older → ∀ later ∈ sends recent, later.1 ≠ id

def Call.deferred : (call : Call) → Except Failure call.Res → List (DeliveryId × Nat)
  | .send id attempt _ _, .ok (.error error) => if error.retryable then [(id, attempt)] else []
  | _, _ => []

/-- What one call by the process makes of a row. -/
inductive Becomes (pid : Nat) (world : World) (row later : DeliveryRow) : Prop where
  | same (equal : later = row)
  | started (ready : row.status = .queued ∨ row.status = .retrying)
      (count : later.attemptCount = row.attemptCount + 1) (status : later.status = .sending)
  | ended (count : later.attemptCount = row.attemptCount)
      (status : later.status ≠ .queued ∧ later.status ≠ .retrying)
  | retried (count : later.attemptCount = row.attemptCount) (status : later.status = .retrying)
      (remaining : row.attemptCount < row.maxAttempts)
      (told : ∃ channel message reason time before, ⟨pid,
        .send row.id row.attemptCount channel message,
        .ok (.error { retryable := true, message := reason }), time, before⟩ ∈ world.history)

/-- The row is in the table already and became what it is now, or it was just planned. -/
def Arises (pid : Nat) (world : World) (later : DeliveryRow) : Prop :=
  (∃ row ∈ world.db.deliveries, later.id = row.id ∧ Becomes pid world row later) ∨
    later.status = .queued ∧ later.attemptCount = 0

section Step

variable {setup : WorkerSetup} {jobs : Nat → Job} {world : World} {pid : Nat} {call : Call}
  {env : Env}

theorem arises_advanced {now : Timestamp} {before delivery : Delivery} {event : DeliveryEvent}
    {attempt : Option DeliveryAttempt} {after : Db}
    (advanced : Advanced now delivery event attempt world.db after)
    (distinct : (world.db.deliveries.map (·.id)).Nodup) (stale : Stale world.db before)
    (moves : Delivery.Moves before delivery event attempt)
    (other : event.eventType ≠ .deliveryStarted) (queued : delivery.status ≠ .queued)
    (told : delivery.status = .retrying → before.attemptCount < before.retryPolicy.maxAttempts ∧
      ∃ channel message reason time earlier, ⟨pid,
        .send before.id before.attemptCount channel message,
        .ok (.error { retryable := true, message := reason }), time, earlier⟩ ∈ world.history)
    (later : DeliveryRow) (member : later ∈ after.deliveries) : Arises pid world later := by
  rcases (advanced.rows distinct later).mp member with ⟨old, _⟩ | ⟨row, old, same, version, rfl⟩
  · exact Or.inl ⟨later, old, rfl, .same rfl⟩
  · have current := stale.current world.db before row distinct old (same.trans moves.id)
    have next := moves.version
    have life : before.life = row.life := current.2.2 (by
      change before.version = row.aggregateVersion
      omega)
    have count : before.attemptCount = row.attemptCount := congrArg State.attemptCount life
    have kept : delivery.attemptCount = before.attemptCount :=
      step_attemptCount _ _ _ _ moves.step other
    refine Or.inl ⟨row, old, rfl, ?_⟩
    by_cases retrying : delivery.status = .retrying
    · obtain ⟨remaining, channel, message, reason, time, earlier, recorded⟩ := told retrying
      refine .retried (kept.trans count) retrying ?_ ⟨channel, message, reason, time, earlier, ?_⟩
      · rw [← count, current.1.maxAttempts]
        exact remaining
      · rw [← count, current.1.id]
        exact recorded
    · exact .ended (kept.trans count) ⟨queued, retrying⟩

theorem arises_execute (exclusive : Exclusive setup jobs world)
    (proper : Proper setup (jobs pid) pid world.db world.history call)
    (reports : MayRecord jobs pid (world.trace pid) call) (later : DeliveryRow)
    (member : later ∈ (world.execute pid call env).2.db.deliveries) : Arises pid world later := by
  have informed := Proper.informed setup (jobs pid) pid world call exclusive.agrees proper
  have wrote := informed.wrote exclusive.agrees.ledger env
  have distinct := exclusive.agrees.ledger.distinct
  rw [World.execute_db] at member
  generalize (runCall env call world.db).1 = answer at wrote
  generalize (runCall env call world.db).2 = after at wrote member
  cases wrote with
  | quiet same silent =>
      rw [same.deliveries] at member
      exact Or.inl ⟨later, member, rfl, .same rfl⟩
  | @planned item inserted =>
      have fresh : item.Fresh := informed
      rcases (inserted.rows later).mp member with old | rfl
      · exact Or.inl ⟨later, old, rfl, .same rfl⟩
      · exact Or.inr ⟨fresh.status, fresh.attemptCount⟩
  | @claimed limit snapshot rows claimed locked all =>
      have apart : (rows.map (·.id)).Nodup := by
        rw [locked]
        exact lockClaimable_distinct _ _ _ _ _ informed
      have batch := all.batch distinct exclusive.agrees.ledger.readable apart
      rcases (batch.tables later).mp member with ⟨old, _⟩ | ⟨pair, inZip, rfl⟩
      · exact Or.inl ⟨later, old, rfl, .same rfl⟩
      · have start := batch.start _ inZip
        exact Or.inl ⟨pair.1, batch.row_mem _ inZip, rfl,
          .started start.ready start.attemptCount start.status⟩
  | @applied delivery transition advanced =>
      obtain ⟨fresh, before, actor, requestId, stale, result⟩ := proper
      have moves := recordDeliveryDelivered_moves _ _ _ _ _ _ result
      have delivered := recordDeliveryDelivered_sent _ _ _ _ _ _ result
      apply arises_advanced advanced distinct stale moves
      · intro started
        have ready := (step_started _ _ _ _ moves.step started).1
        have status : before.life.status = .sent := delivered.1
        rw [status] at ready
        simp at ready
      · rw [delivered.2]
        simp
      · intro retrying
        rw [delivered.2] at retrying
        simp at retrying
      · exact member
  | @attempted delivery transition advanced =>
      obtain ⟨dispatching, fresh, before, actor, requestId, ⟨row, inTable, holds⟩, result⟩ := proper
      have records : Records before delivery transition := ⟨fresh, actor, requestId, result⟩
      have moves := records.moves
      apply arises_advanced advanced distinct (holds.stale inTable) moves
      · intro started
        have unrecorded := (step_started _ _ _ _ moves.step started).2
        simp at unrecorded
      · intro queued
        exact step_unqueued _ _ _ _ moves.step queued
      · intro retrying
        rcases result with ⟨messageId, result⟩ | ⟨retryable, reason, result⟩
        · have status := (recordDeliverySuccess_outcome _ _ _ _ _ _ _ result).2
          rw [status] at retrying
          simp at retrying
        · obtain ⟨id, count, outcome, remaining⟩ :=
            recordDeliveryFailure_outcome _ _ _ _ _ _ _ _ result
          obtain ⟨rfl, attempts⟩ := remaining retrying
          obtain ⟨channel, message, sent⟩ := reports dispatching reason outcome
          obtain ⟨time, earlier, recorded⟩ := world.mem_trace pid _ _ sent
          rw [id, count] at recorded
          exact ⟨attempts, channel, message, reason, time, earlier, recorded⟩
      · exact member

end Step

/-- What the tables show of the messages sent so far. -/
structure Settled (outcomes : Nat → HttpOutcome) (world : World) : Prop where
  final : FinalOnceAcknowledged outcomes world.history
  tried : ∀ row ∈ world.db.deliveries, ∀ number, 0 < number →
    (number < row.attemptCount ∨ number = row.attemptCount ∧ row.status = .retrying) →
      (row.id, number) ∈ sends world.history
  closed : ∀ recent entry older id attempt, world.history = recent ++ entry :: older →
    Acknowledged outcomes id attempt entry older → ∃ row ∈ world.db.deliveries, row.id = id ∧
      row.attemptCount = attempt ∧ row.status ≠ .queued ∧ row.status ≠ .retrying
  exhausted : ∀ recent entry older id attempt, world.history = recent ++ entry :: older →
    Acknowledged outcomes id attempt entry older →
      (id, attempt) ∈ entry.call.deferred entry.answer →
        ∃ row ∈ world.db.deliveries, row.id = id ∧ row.maxAttempts ≤ attempt

theorem Acknowledged.mem_sent {outcomes : Nat → HttpOutcome} {id : DeliveryId} {attempt : Nat}
    {entry : Entry} {older : List Entry} (acknowledged : Acknowledged outcomes id attempt entry older) :
    (id, attempt) ∈ entry.call.sent := by
  obtain ⟨channel, message, adapter, call, _, _⟩ := acknowledged.sent
  rw [call]
  exact List.mem_singleton_self _

theorem mem_sends_of_split (history recent older : List Entry) (entry : Entry)
    (pair : DeliveryId × Nat) (split : history = recent ++ entry :: older)
    (sent : pair ∈ entry.call.sent) : pair ∈ sends history := by
  refine List.mem_flatMap.mpr ⟨entry, ?_, sent⟩
  rw [split]
  exact List.mem_append_right _ List.mem_cons_self

theorem sends_unique (history : List Entry) (distinct : (sends history).Nodup)
    (pair : DeliveryId × Nat) (firstRecent firstOlder secondRecent secondOlder : List Entry)
    (first second : Entry) (firstSplit : history = firstRecent ++ first :: firstOlder)
    (secondSplit : history = secondRecent ++ second :: secondOlder)
    (firstSent : pair ∈ first.call.sent) (secondSent : pair ∈ second.call.sent) :
    first = second ∧ firstOlder = secondOlder := by
  induction firstRecent generalizing history secondRecent with
  | nil =>
      cases secondRecent with
      | nil => exact List.cons.inj (firstSplit.symm.trans secondSplit)
      | cons head recent =>
          have both := List.cons.inj (firstSplit.symm.trans secondSplit)
          have again := mem_sends_of_split _ _ _ _ pair both.2 secondSent
          rw [firstSplit, List.nil_append, sends_cons] at distinct
          exact absurd rfl ((List.nodup_append.mp distinct).2.2 pair firstSent pair again)
  | cons head firstRecent ih =>
      cases secondRecent with
      | nil =>
          have both := List.cons.inj (secondSplit.symm.trans firstSplit)
          have again := mem_sends_of_split _ _ _ _ pair both.2 firstSent
          rw [secondSplit, List.nil_append, sends_cons] at distinct
          exact absurd rfl ((List.nodup_append.mp distinct).2.2 pair secondSent pair again)
      | cons other secondRecent =>
          have both := List.cons.inj (firstSplit.symm.trans secondSplit)
          rw [firstSplit, List.cons_append, sends_cons] at distinct
          exact ih _ (List.nodup_append.mp distinct).2.1 secondRecent rfl both.2

section Run

variable {setup : WorkerSetup} {jobs : Nat → Job} {world : World} {pid : Nat} {call : Call}
  {env : Env} {libraries : HttpLibraries} {outcomes : Nat → HttpOutcome}

theorem current_of_unsent (exclusive : Exclusive setup jobs world) (settled : Settled outcomes world)
    (id : DeliveryId) (attempt : Nat) (handed : (id, attempt) ∈ handedOut world.history)
    (unsent : (id, attempt) ∉ sends world.history) : ∃ row ∈ world.db.deliveries, row.id = id ∧
      row.attemptCount = attempt ∧ row.status ≠ .queued ∧ row.status ≠ .retrying := by
  obtain ⟨positive, row, member, same, bound⟩ := exclusive.stored _ handed
  have untried : ¬ (attempt < row.attemptCount ∨
      attempt = row.attemptCount ∧ row.status = .retrying) := by
    intro tried
    have sent := settled.tried row member attempt positive tried
    rw [same] at sent
    exact unsent sent
  have count : attempt = row.attemptCount := by
    have notBelow : ¬ attempt < row.attemptCount := fun below => untried (Or.inl below)
    simp only at bound
    omega
  refine ⟨row, member, same, count.symm, ?_, ?_⟩
  · intro queued
    obtain ⟨_, _, consistent⟩ := exclusive.agrees.ledger.consistent row member
    have none : row.attemptCount = 0 := consistent.unstarted queued
    simp only at positive
    omega
  · exact fun retrying => untried (Or.inr ⟨count, retrying⟩)

theorem tried_execute (exclusive : Exclusive setup jobs world)
    (proper : Proper setup (jobs pid) pid world.db world.history call)
    (reports : MayRecord jobs pid (world.trace pid) call) (settled : Settled outcomes world)
    (later : DeliveryRow) (member : later ∈ (world.execute pid call env).2.db.deliveries)
    (number : Nat) (positive : 0 < number)
    (past : number < later.attemptCount ∨ number = later.attemptCount ∧ later.status = .retrying) :
    (later.id, number) ∈ sends (world.execute pid call env).2.history := by
  rw [World.execute_history, sends_cons]
  apply List.mem_append_right
  rcases arises_execute exclusive proper reports later member with
    ⟨row, inTable, id, becomes⟩ | ⟨_, none⟩
  · have tried := settled.tried row inTable number positive
    rw [id]
    cases becomes with
    | same equal =>
        rw [equal] at past
        exact tried past
    | started ready count status =>
        apply tried
        have below : number < later.attemptCount := by
          rcases past with below | ⟨_, retrying⟩
          · exact below
          · rw [status] at retrying
            simp at retrying
        rcases ready with queued | retrying
        · obtain ⟨_, _, consistent⟩ := exclusive.agrees.ledger.consistent row inTable
          have none : row.attemptCount = 0 := consistent.unstarted queued
          omega
        · by_cases latest : number = row.attemptCount
          · exact Or.inr ⟨latest, retrying⟩
          · exact Or.inl (by omega)
    | ended count status =>
        rcases past with below | ⟨_, retrying⟩
        · exact tried (Or.inl (by omega))
        · exact absurd retrying status.2
    | retried count status remaining told =>
        by_cases latest : number = row.attemptCount
        · obtain ⟨channel, message, reason, time, before, recorded⟩ := told
          rw [latest]
          exact List.mem_flatMap.mpr ⟨_, recorded, List.mem_singleton_self _⟩
        · exact tried (Or.inl (by omega))
  · omega

theorem closed_execute (exclusive : Exclusive setup jobs world)
    (proper : Proper setup (jobs pid) pid world.db world.history call)
    (reports : MayRecord jobs pid (world.trace pid) call) (settled : Settled outcomes world)
    (recent : List Entry) (entry : Entry) (older : List Entry) (id : DeliveryId) (attempt : Nat)
    (split : (world.execute pid call env).2.history = recent ++ entry :: older)
    (acknowledged : Acknowledged outcomes id attempt entry older) :
    ∃ row ∈ (world.execute pid call env).2.db.deliveries, row.id = id ∧
      row.attemptCount = attempt ∧ row.status ≠ .queued ∧ row.status ≠ .retrying := by
  rw [World.execute_history] at split
  cases recent with
  | nil =>
      obtain ⟨rfl, rfl⟩ := List.cons.inj split
      obtain ⟨channel, message, adapter, made, _, _⟩ := acknowledged.sent
      simp only at made
      subst made
      exact current_of_unsent exclusive settled id attempt proper.1 proper.2
  | cons latest recent =>
      have past := (List.cons.inj split).2
      obtain ⟨row, inTable, same, count, status⟩ :=
        settled.closed recent entry older id attempt past acknowledged
      have informed := Proper.informed setup (jobs pid) pid world call exclusive.agrees proper
      have continues := (informed.wrote exclusive.agrees.ledger env).continues informed
        exclusive.agrees.ledger
      obtain ⟨later, inLater, follows⟩ := continues.kept row inTable
      have grown := follows.attemptCount
      have sent := mem_sends_of_split _ _ _ _ _ past acknowledged.mem_sent
      have positive := (exclusive.stored _ (exclusive.claimed _ sent)).1
      simp only at positive
      refine ⟨later, inLater, follows.id.trans same, ?_⟩
      rcases arises_execute exclusive proper reports later inLater with
        ⟨origin, member, equal, becomes⟩ | ⟨_, none⟩
      · obtain rfl := eq_of_key (·.id) _ exclusive.agrees.ledger.distinct origin row member inTable
          (equal.symm.trans follows.id)
        cases becomes with
        | same equal =>
            rw [equal]
            exact ⟨count, status⟩
        | started ready _ _ =>
            rcases ready with queued | retrying
            · exact absurd queued status.1
            · exact absurd retrying status.2
        | ended kept done => exact ⟨kept.trans count, done⟩
        | retried kept retrying remaining told =>
            obtain ⟨channel, message, reason, time, before, recorded⟩ := told
            obtain ⟨first, last, place⟩ := List.append_of_mem recorded
            obtain ⟨rfl, _⟩ := sends_unique world.history exclusive.sends (id, attempt) recent older
              first last entry _ past place acknowledged.mem_sent (by simp [Call.sent, same, count])
            obtain ⟨stored, member, owner, exhausted⟩ := settled.exhausted recent _ older id attempt
              past acknowledged (by simp [Call.deferred, same, count])
            obtain rfl := eq_of_key (·.id) _ exclusive.agrees.ledger.distinct stored origin member
              inTable (owner.trans same.symm)
            omega
      · omega

theorem exhausted_execute (exclusive : Exclusive setup jobs world)
    (proper : Proper setup (jobs pid) pid world.db world.history call)
    (legal : (readableRules libraries outcomes).mayCall pid call env world)
    (settled : Settled outcomes world) (recent : List Entry) (entry : Entry) (older : List Entry)
    (id : DeliveryId) (attempt : Nat)
    (split : (world.execute pid call env).2.history = recent ++ entry :: older)
    (acknowledged : Acknowledged outcomes id attempt entry older)
    (deferred : (id, attempt) ∈ entry.call.deferred entry.answer) :
    ∃ row ∈ (world.execute pid call env).2.db.deliveries, row.id = id ∧
      row.maxAttempts ≤ attempt := by
  rw [World.execute_history] at split
  cases recent with
  | nil =>
      obtain ⟨rfl, rfl⟩ := List.cons.inj split
      obtain ⟨channel, message, adapter, made, served, success⟩ := acknowledged.sent
      simp only at made
      subst made
      have reply : env.reply = adapter.send libraries message
        (outcomes (sends world.history).length) := legal.1.2 adapter served
      have unread : adapter.readable libraries (outcomes (sends world.history).length) ≠ true := by
        intro readable
        have sent := adapter.send_acknowledged libraries message _ success
        simp only [readable, if_true] at sent
        obtain ⟨outcome, result⟩ := sent
        rw [result] at reply
        simp [runCall, reply, Call.deferred] at deferred
      have bound := (legal.2 adapter served success).resolve_left unread
      obtain ⟨_, row, member, same, _⟩ := exclusive.stored _ proper.1
      exact ⟨row, member, same, bound row member same⟩
  | cons latest recent =>
      obtain ⟨row, inTable, same, bound⟩ := settled.exhausted recent entry older id attempt
        (List.cons.inj split).2 acknowledged deferred
      have informed := Proper.informed setup (jobs pid) pid world call exclusive.agrees proper
      have continues := (informed.wrote exclusive.agrees.ledger env).continues informed
        exclusive.agrees.ledger
      obtain ⟨later, inLater, follows⟩ := continues.kept row inTable
      exact ⟨later, inLater, follows.id.trans same, by rw [follows.maxAttempts]; exact bound⟩

theorem final_execute (exclusive : Exclusive setup jobs world)
    (proper : Proper setup (jobs pid) pid world.db world.history call)
    (settled : Settled outcomes world) :
    FinalOnceAcknowledged outcomes (world.execute pid call env).2.history := by
  intro recent entry older id attempt split acknowledged later member same
  rw [World.execute_history] at split
  cases recent with
  | nil => simp [sends] at member
  | cons latest recent =>
      obtain ⟨rfl, past⟩ := List.cons.inj split
      rw [sends_cons] at member
      rcases List.mem_append.mp member with now | before
      · cases call with
        | send deliveryId number channel message =>
            obtain rfl := List.mem_singleton.mp now
            simp only at same
            subst same
            obtain ⟨row, inTable, owner, count, status⟩ :=
              settled.closed recent entry older deliveryId attempt past acknowledged
            obtain ⟨current, inAgain, equal, latest, _⟩ :=
              current_of_unsent exclusive settled deliveryId number proper.1 proper.2
            obtain rfl := eq_of_key (·.id) _ exclusive.agrees.ledger.distinct current row inAgain
              inTable (equal.trans owner.symm)
            have sent := mem_sends_of_split _ _ _ _ _ past acknowledged.mem_sent
            rw [← count, latest] at sent
            exact proper.2 sent
        | _ => simp [Call.sent] at now
      · exact settled.final recent entry older id attempt past acknowledged later before same

theorem settled_execute (exclusive : Exclusive setup jobs world)
    (proper : Proper setup (jobs pid) pid world.db world.history call)
    (legal : (readableRules libraries outcomes).mayCall pid call env world)
    (reports : MayRecord jobs pid (world.trace pid) call) (settled : Settled outcomes world) :
    Settled outcomes (world.execute pid call env).2 := by
  constructor
  · exact final_execute exclusive proper settled
  · exact tried_execute exclusive proper reports settled
  · exact closed_execute exclusive proper reports settled
  · exact exhausted_execute exclusive proper legal settled

end Run

theorem settled_initial (outcomes : Nat → HttpOutcome) (db : Db) (initial : db.Initial) :
    Settled outcomes (World.initial db) where
  final := by
    intro recent entry older id attempt split
    simp [World.initial] at split
  tried := by simp [World.initial, initial.deliveries]
  closed := by
    intro recent entry older id attempt split
    simp [World.initial] at split
  exhausted := by
    intro recent entry older id attempt split
    simp [World.initial] at split

/-- However calls and outcomes interleave, a message that its provider acknowledged is the last one of
its delivery, as long as the body of every success can be read while attempts remain. -/
theorem acknowledged_final (deployment : Deployment) (jobs : Nat → Job) (init : Db)
    (initial : init.Initial) (libraries : HttpLibraries) (outcomes : Nat → HttpOutcome)
    (config : Pool) (reached : deployment.Reaches jobs (readableRules libraries outcomes) init config) :
    FinalOnceAcknowledged outcomes config.state.history := by
  have reports := reach_reports deployment jobs _ init config reached
  have watched : Watched ((readableRules libraries outcomes).after recordedCalls (MayRecord jobs))
      jobs False :=
    { timely := fun _ _ _ _ legal => legal.1.1.1
      errors := fun impossible => impossible.elim
      drops := fun impossible => impossible.elim }
  have settled : Settled outcomes config.state := by
    apply reach_invariant deployment jobs watched init initial
    · exact settled_initial outcomes init initial
    · intro world pid call env exclusive proper legal settled
      exact settled_execute exclusive proper legal.1 legal.2 settled
    · exact reports
  exact settled.final

section Runs

open Scenario

/-- A body that Infobip sends with a success, and one that a proxy in front of it may send. -/
def acceptedBody : Bytes := Text.asciiBytes "\x7b\"messages\":[\x7b\"messageId\":\"sms-1\"\x7d]\x7d"

def proxyBody : Bytes := Text.asciiBytes "OK"

/-- The libraries on these two bodies: the first is an object, the second is not JSON. -/
def libraries : HttpLibraries :=
  { statusText := fun _ => "200 OK"
    fromSlice := fun body => if body = acceptedBody then
        some (.object [("messages", .array [.object [("messageId", .string "sms-1")]])])
      else none
    decodeError := fun _ => "error decoding response body" }

def answering (outcome : HttpOutcome) (config : Pool) : Label Env → Bool
  | .start _ => true
  | .call pid env => timely config (.call pid env) && !env.fault && match config.slots pid with
    | .active (.call (.send _ _ channel message) _) =>
        (httpChannel channel).all fun adapter =>
          decide (env.reply = adapter.send libraries message outcome)
    | _ => true
  | .halt _ => false

theorem answering_sound (outcome : HttpOutcome) (config : Pool) (label : Label Env)
    (h : answering outcome config label = true) :
    (faultless (providerRules libraries fun _ => outcome)).legal config label := by
  cases label with
  | start pid => trivial
  | halt pid => simp [answering] at h
  | call pid env =>
      intro call next slot
      simp only [answering, slot, Bool.and_eq_true, Bool.not_eq_true'] at h
      refine ⟨⟨of_decide_eq_true h.1.1, ?_⟩, h.1.2⟩
      cases call with
      | send id attempt channel message =>
          intro adapter served
          simpa [served] using h.2
      | _ => trivial

def readably (outcome : HttpOutcome) (config : Pool) (label : Label Env) : Bool :=
  answering outcome config label && match label with
    | .call pid _ => match config.slots pid with
      | .active (.call (.send _ _ channel _) _) =>
          (httpChannel channel).all fun adapter => adapter.readable libraries outcome
      | _ => true
    | _ => true

theorem readably_sound (outcome : HttpOutcome) (config : Pool) (label : Label Env)
    (h : readably outcome config label = true) :
    (readableRules libraries fun _ => outcome).legal config label := by
  simp only [readably, Bool.and_eq_true] at h
  have answered := answering_sound outcome config label h.1
  cases label with
  | start pid => trivial
  | halt pid => exact fun _ _ _ => trivial
  | call pid env =>
      intro call next slot
      refine ⟨(answered call next slot).1, ?_⟩
      have reads := h.2
      simp only [slot] at reads
      cases call with
      | send id attempt channel message =>
          intro adapter served _
          have readable : adapter.readable libraries outcome = true := by simpa [served] using reads
          exact Or.inl readable
      | _ => trivial

def smsReply (outcome : HttpOutcome) (now : Timestamp) : Env :=
  { env now with
    reply := infobipSmsChannel.send libraries { endpointAddress := "+237600000001", body := "" }
      outcome }

/-- WhatsApp refuses the alert for good, and the SMS of the next tier meets the outcome. -/
def smsRun (outcome : HttpOutcome) : List (Label Env) :=
  runs 0 1 1 ++ runs 1 7 10 ++ runsWith refusing 2 6 20 ++ runsWith (smsReply outcome) 3 6 30

/-- The call so many calls ago sent a message that was acknowledged; and whether one of the calls after
it sent another for the same delivery. -/
def acknowledgedThen (outcome : HttpOutcome) (ago : Nat) (again : Bool) (history : List Entry) : Bool :=
  match history.drop ago with
  | ⟨_, .send id _ channel message, _, _, _⟩ :: _ =>
      ((httpChannel channel).any fun adapter => adapter.acknowledges message outcome) &&
        ((sends (history.take ago)).any fun pair => decide (pair.1 = id)) == again
  | _ => false

theorem acknowledgedThen_split (outcome : HttpOutcome) (ago : Nat) (again : Bool)
    (history : List Entry) (h : acknowledgedThen outcome ago again history = true) :
    ∃ recent entry older id attempt, history = recent ++ entry :: older ∧
      Acknowledged (fun _ => outcome) id attempt entry older ∧
      (again = true → ∃ later ∈ sends recent, later.1 = id) := by
  unfold acknowledgedThen at h
  split at h
  · rename_i pid id attempt channel message answer time before older rest
    simp only [Bool.and_eq_true, beq_iff_eq] at h
    have split : history = history.take ago ++
        ⟨pid, .send id attempt channel message, answer, time, before⟩ :: older := by
      rw [← rest, List.take_append_drop]
    refine ⟨_, _, older, id, attempt, split, ?_, ?_⟩
    · cases served : httpChannel channel with
      | none => simp [served] at h
      | some adapter =>
          have success := h.1
          simp only [served, Option.any_some] at success
          exact ⟨channel, message, adapter, rfl, served, success⟩
    · intro repeated
      rw [repeated, List.any_eq_true] at h
      obtain ⟨later, member, same⟩ := h.2
      exact ⟨later, member, of_decide_eq_true same⟩
  · simp at h

/-- The body of the answer is not JSON, and a later cycle sends the SMS again. -/
theorem acknowledged_sent_twice : ∃ (outcomes : Nat → HttpOutcome) (config : Pool),
    deployment.Reaches jobs (faultless (providerRules libraries outcomes)) store config ∧
      ¬ FinalOnceAcknowledged outcomes config.state.history := by
  obtain ⟨config, arrived, sent, _⟩ := play_reaches (deployment.pool jobs)
    (initially (World.initial store) : Pool) _ (answering_sound (.response 200 (.ok proxyBody)))
        (smsRun (.response 200 (.ok proxyBody)) ++
      runsWith (smsReply (.response 200 (.ok proxyBody))) 4 5 40000000)
    (fun config => acknowledgedThen (.response 200 (.ok proxyBody)) 6 true config.state.history)
    (by decide +kernel)
  refine ⟨fun _ => .response 200 (.ok proxyBody), config, arrived, ?_⟩
  obtain ⟨recent, entry, older, id, attempt, split, acknowledged, again⟩ :=
    acknowledgedThen_split _ _ _ _ sent
  obtain ⟨later, member, same⟩ := again rfl
  intro final
  exact final recent entry older id attempt split acknowledged later member same

/-- With a body that can be read the SMS is acknowledged once and for all. -/
theorem acknowledged_final_sms : ∃ config : Pool,
    (∃ recent entry older id attempt, config.state.history = recent ++ entry :: older ∧
      Acknowledged (fun _ => .response 200 (.ok acceptedBody)) id attempt entry older) ∧
    FinalOnceAcknowledged (fun _ => .response 200 (.ok acceptedBody)) config.state.history := by
  obtain ⟨config, arrived, sent, _⟩ := play_reaches (deployment.pool jobs)
    (initially (World.initial store) : Pool) _ (readably_sound (.response 200 (.ok acceptedBody)))
    (smsRun (.response 200 (.ok acceptedBody)))
    (fun config => acknowledgedThen (.response 200 (.ok acceptedBody)) 1 false config.state.history)
    (by decide +kernel)
  obtain ⟨recent, entry, older, id, attempt, split, acknowledged, _⟩ :=
    acknowledgedThen_split _ _ _ _ sent
  exact ⟨config, ⟨recent, entry, older, id, attempt, split, acknowledged⟩,
    acknowledged_final deployment jobs store store_initial libraries _ config arrived⟩

end Runs

end SafeCameroon
