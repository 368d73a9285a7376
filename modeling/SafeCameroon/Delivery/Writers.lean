import SafeCameroon.Aggregate.Follows
import SafeCameroon.Delivery.Effects

namespace SafeCameroon

open Table Optimistic DeliveryLife

namespace Call

def snapshots : (call : Call) → Except Failure call.Res → List ClaimSnapshot
  | .beginClaim, .ok snapshot => [snapshot]
  | _, _ => []

end Call

namespace World

def transitions (world : World) (id : DeliveryId) : Nat :=
  (world.history.flatMap fun entry => entry.call.moved entry.answer).count id

/-- The value was returned by an earlier call, to whomever. -/
def Obtained (world : World) (delivery : Delivery) : Prop :=
  ∃ entry ∈ world.history, delivery ∈ entry.call.obtained entry.answer

def Began (world : World) (snapshot : ClaimSnapshot) : Prop :=
  ∃ entry ∈ world.history, snapshot ∈ entry.call.snapshots entry.answer

end World

/-- What a writer may do: persist an item of a plan, lock what an earlier snapshot of its claim shows,
or write a value from an earlier read after one domain transition of it. -/
def Admissible (sha256 : String → Bytes) (world : World) : Call → Prop
  | .createPlannedItem item => ∃ fresh alert matched preferences policy actor requestId,
      item ∈ planDeliveries sha256 fresh alert matched preferences policy actor requestId
  | .lockAndStart _ snapshot => world.Began snapshot
  | .applyTransition delivery transition => ∃ fresh before actor requestId, world.Obtained before ∧
      (startDeliveryAttempt fresh before actor requestId = .ok (delivery, transition) ∨
        recordDeliveryDelivered fresh before actor requestId = .ok (delivery, transition))
  | .applyAttemptTransition delivery transition => ∃ fresh before actor requestId,
      world.Obtained before ∧
      ((∃ messageId, recordDeliverySuccess fresh before messageId actor requestId =
          .ok (delivery, transition)) ∨
        ∃ retryable reason, recordDeliveryFailure fresh before retryable reason actor requestId =
          .ok (delivery, transition))
  | _ => True

/-- The worlds that writers reach, each acting at any time on whatever it has read before. -/
inductive Writes (sha256 : String → Bytes) (start : World) : World → Prop where
  | start : Writes sha256 start start
  | step {world : World} (pid : Nat) (call : Call) (env : Env)
      (reached : Writes sha256 start world) (later : world.clock ≤ env.now)
      (admissible : Admissible sha256 world call) :
      Writes sha256 start (world.execute pid call env).2

/-- What holds however the writers interleave. -/
structure Agrees (world : World) : Prop where
  ledger : Ledger world.db world.transitions
  obtained : ∀ delivery, world.Obtained delivery → Stale world.db delivery
  snapshots : ∀ snapshot, world.Began snapshot → (snapshot.rows.map (·.id)).Nodup

section Step

variable {sha256 : String → Bytes} {world : World} {pid : Nat} {call : Call} {env : Env}

theorem transitions_execute (id : DeliveryId) : (world.execute pid call env).2.transitions id =
    (call.moved (runCall env call world.db).1).count id + world.transitions id := by
  simp [World.transitions]

theorem obtained_execute (delivery : Delivery) : (world.execute pid call env).2.Obtained delivery ↔
    delivery ∈ call.obtained (runCall env call world.db).1 ∨ world.Obtained delivery := by
  simp [World.Obtained]

theorem began_execute (snapshot : ClaimSnapshot) : (world.execute pid call env).2.Began snapshot ↔
    snapshot ∈ call.snapshots (runCall env call world.db).1 ∨ world.Began snapshot := by
  simp [World.Began]

end Step

def Informed (db : Db) : Call → Prop
  | .createPlannedItem item => item.Fresh
  | .lockAndStart _ snapshot => (snapshot.rows.map (·.id)).Nodup
  | .applyTransition delivery transition => ∃ before, Stale db before ∧
      Delivery.Moves before delivery transition.event none
  | .applyAttemptTransition delivery transition => ∃ before, Stale db before ∧
      Delivery.Moves before delivery transition.event (some transition.attempt)
  | _ => True

theorem recordDeliveryDelivered_moves (fresh : Supply) (before delivery : Delivery) (actor : Actor)
    (requestId : Uuid) (transition : DeliveryTransition)
    (h : recordDeliveryDelivered fresh before actor requestId = .ok (delivery, transition)) :
    Delivery.Moves before delivery transition.event none := by
  simp only [recordDeliveryDelivered, bind_ok, pure, Except.pure, Except.ok.injEq,
    Prod.mk.injEq] at h
  obtain ⟨⟨after, event⟩, recorded, rfl, rfl⟩ := h
  exact Delivery.recordDelivered_moves fresh before after event recorded

theorem recordDeliverySuccess_moves (fresh : Supply) (before delivery : Delivery)
    (providerMessageId : Option String) (actor : Actor) (requestId : Uuid)
    (transition : DeliveryAttemptTransition)
    (h : recordDeliverySuccess fresh before providerMessageId actor requestId =
      .ok (delivery, transition)) :
    Delivery.Moves before delivery transition.event (some transition.attempt) := by
  simp only [recordDeliverySuccess, bind_ok, pure, Except.pure, Except.ok.injEq, Prod.mk.injEq] at h
  obtain ⟨⟨after, event, attempt⟩, recorded, rfl, rfl⟩ := h
  exact Delivery.recordSuccess_moves fresh providerMessageId before after event attempt recorded

theorem recordDeliveryFailure_moves (fresh : Supply) (before delivery : Delivery) (retryable : Bool)
    (reason : String) (actor : Actor) (requestId : Uuid) (transition : DeliveryAttemptTransition)
    (h : recordDeliveryFailure fresh before retryable reason actor requestId =
      .ok (delivery, transition)) :
    Delivery.Moves before delivery transition.event (some transition.attempt) := by
  simp only [recordDeliveryFailure, bind_ok, pure, Except.pure, Except.ok.injEq, Prod.mk.injEq] at h
  obtain ⟨⟨after, event, attempt⟩, recorded, rfl, rfl⟩ := h
  exact Delivery.recordFailure_moves fresh retryable reason before after event attempt recorded

theorem Agrees.informed {sha256 : String → Bytes} {world : World} (agrees : Agrees world)
    (call : Call) (admissible : Admissible sha256 world call) : Informed world.db call := by
  cases call with
  | createPlannedItem item =>
      obtain ⟨fresh, alert, matched, preferences, policy, actor, requestId, member⟩ := admissible
      exact planDeliveries_fresh sha256 fresh alert matched preferences policy actor requestId item
        member
  | lockAndStart limit snapshot => exact agrees.snapshots snapshot admissible
  | applyTransition delivery transition =>
      obtain ⟨fresh, before, actor, requestId, obtained, started | delivered⟩ := admissible
      · exact ⟨before, agrees.obtained before obtained,
          (startDeliveryAttempt_started fresh before delivery actor requestId transition started).moves⟩
      · exact ⟨before, agrees.obtained before obtained,
          recordDeliveryDelivered_moves fresh before delivery actor requestId transition delivered⟩
  | applyAttemptTransition delivery transition =>
      obtain ⟨fresh, before, actor, requestId, obtained,
        ⟨messageId, result⟩ | ⟨retryable, reason, result⟩⟩ := admissible
      · exact ⟨before, agrees.obtained before obtained,
          recordDeliverySuccess_moves fresh before delivery messageId actor requestId transition result⟩
      · exact ⟨before, agrees.obtained before obtained,
          recordDeliveryFailure_moves fresh before delivery retryable reason actor requestId transition
            result⟩
  | _ => trivial

theorem Informed.wrote {db : Db} {call : Call} {transitions : DeliveryId → Nat}
    (informed : Informed db call) (ledger : Ledger db transitions) (env : Env) :
    Wrote env db (runCall env call db).2 call (runCall env call db).1 := by
  refine runCall_wrote env call db ledger.distinct ledger.readable ?_
  rintro limit snapshot rfl
  exact informed

theorem Stale.congr {db after : Db} (same : db.SameDeliveries after) (reader : Delivery)
    (stale : Stale db reader) : Stale after reader := by
  obtain ⟨row, member, rest⟩ := stale
  exact ⟨row, same.deliveries ▸ member, rest⟩

theorem Ledger.congr {db after : Db} {transitions : DeliveryId → Nat}
    (same : db.SameDeliveries after) (ledger : Ledger db transitions) : Ledger after transitions where
  distinct := by rw [same.deliveries]; exact ledger.distinct
  events_known := by rw [same.events, same.deliveries]; exact ledger.events_known
  attempts_known := by rw [same.attempts, same.deliveries]; exact ledger.attempts_known
  unplanned := by rw [same.deliveries]; exact ledger.unplanned
  readable := by rw [same.deliveries]; exact ledger.readable
  tells := by
    rw [same.deliveries]
    intro row member
    obtain ⟨log, told⟩ := ledger.tells row member
    refine ⟨log, told.counted, told.sound, ?_, ?_⟩
    · rw [eventsOf, same.events]
      exact told.events
    · rw [attemptsOf, same.attempts]
      exact told.attempts

section Wrote

variable {env : Env} {db after : Db} {call : Call} {answer : Except Failure call.Res}
  {transitions : DeliveryId → Nat}

theorem Wrote.ledger (wrote : Wrote env db after call answer) (informed : Informed db call)
    (ledger : Ledger db transitions) :
    Ledger after fun id => (call.moved answer).count id + transitions id := by
  have single : ∀ delivery : Delivery,
      (fun id => if id = delivery.id then transitions id + 1 else transitions id) =
        fun id => [delivery.id].count id + transitions id := by
    intro delivery
    funext id
    rw [List.count_singleton]
    by_cases equal : id = delivery.id
    · simp [equal, Nat.add_comm]
    · have differs : ¬ delivery.id = id := fun other => equal other.symm
      simp [equal, differs]
  cases wrote with
  | quiet same silent => simpa [silent] using Ledger.congr same ledger
  | planned inserted => simpa [Call.moved] using ledger_insert ledger informed inserted
  | claimed locked all => exact all.ledger transitions ledger
  | applied advanced =>
      obtain ⟨before, stale, moves⟩ := informed
      have advancedLedger := ledger_advance ledger stale moves advanced
      rw [single] at advancedLedger
      exact advancedLedger
  | attempted advanced =>
      obtain ⟨before, stale, moves⟩ := informed
      have advancedLedger := ledger_advance ledger stale moves advanced
      rw [single] at advancedLedger
      exact advancedLedger

theorem Wrote.stale (wrote : Wrote env db after call answer)
    (distinct : (db.deliveries.map (·.id)).Nodup) (reader : Delivery) (stale : Stale db reader) :
    Stale after reader := by
  cases wrote with
  | quiet same silent => exact Stale.congr same reader stale
  | planned inserted => exact stale_insert reader stale inserted
  | claimed locked all => exact all.stale distinct reader stale
  | applied advanced => exact stale_advance distinct reader stale advanced
  | attempted advanced => exact stale_advance distinct reader stale advanced

theorem Wrote.continues (wrote : Wrote env db after call answer) (informed : Informed db call)
    (ledger : Ledger db transitions) :
    Continues (fun row => ∃ item, call = .createPlannedItem item ∧ row = plannedRow env.now item)
      db after := by
  have widen : Continues (fun _ => False) db after →
      Continues (fun row => ∃ item, call = .createPlannedItem item ∧ row = plannedRow env.now item)
        db after := fun continues =>
    ⟨continues.kept, fun row member => Or.inl ((continues.origin row member).resolve_right id)⟩
  cases wrote with
  | quiet same silent => exact .same _ db after same.deliveries
  | planned inserted =>
      have continues := inserted.continues
      exact ⟨continues.kept, fun row member =>
        (continues.origin row member).imp_right fun added => ⟨_, rfl, added⟩⟩
  | claimed locked all =>
      refine widen ((all.batch ledger.distinct ledger.readable ?_).continues ledger.distinct)
      exact locked ▸ lockClaimable_distinct _ _ _ _ _ informed
  | applied advanced =>
      obtain ⟨before, stale, moves⟩ := informed
      exact widen (advanced.continues ledger.distinct stale moves)
  | attempted advanced =>
      obtain ⟨before, stale, moves⟩ := informed
      exact widen (advanced.continues ledger.distinct stale moves)

end Wrote

theorem obtained_read (env : Env) (call : Call) (db : Db)
    (reads : ∀ limit snapshot, call ≠ .lockAndStart limit snapshot) (delivery : Delivery)
    (obtained : delivery ∈ call.obtained (runCall env call db).1) :
    ∃ row ∈ db.deliveries, deliveryFromRow row = .ok delivery := by
  cases call with
  | lockAndStart limit snapshot => exact absurd rfl (reads limit snapshot)
  | findDelivery id =>
      cases answer : (runCall env (.findDelivery id) db).1 with
      | error failure => simp [answer, Call.obtained] at obtained
      | ok found =>
          have result := query_ok _ _ _ _ _ answer
          simp only [PostgresDeliveryRepository.findById] at result
          split at result
          · obtain rfl : found = none := by simpa [eq_comm] using result
            simp [answer, Call.obtained] at obtained
          · rename_i row stored
            cases read : deliveryFromRow row with
            | error failure => simp [read, Except.map] at result
            | ok value =>
                obtain rfl : found = some value := by simpa [read, Except.map, eq_comm] using result
                obtain rfl : delivery = value := by simpa [answer, Call.obtained] using obtained
                exact ⟨row, (lookup_some _ _ _ _ stored).1, read⟩
  | findDeliveriesByAlert id =>
      cases answer : (runCall env (.findDeliveriesByAlert id) db).1 with
      | error failure => simp [answer, Call.obtained] at obtained
      | ok found =>
          have result := query_ok _ _ _ _ _ answer
          rw [answer] at obtained
          obtain ⟨row, member, read⟩ := mapM_mem _ _ _ result delivery obtained
          exact ⟨row, (List.mem_filter.mp ((mem_orderBy _ _ _ _).mp member)).1, read⟩
  | _ => simp [Call.obtained] at obtained

theorem obtained_stale (env : Env) (call : Call) (db : Db) (transitions : DeliveryId → Nat)
    (ledger : Ledger db transitions) (informed : Informed db call) (delivery : Delivery)
    (obtained : delivery ∈ call.obtained (runCall env call db).1) :
    Stale (runCall env call db).2 delivery := by
  have wrote := informed.wrote ledger env
  by_cases claim : ∃ limit snapshot, call = .lockAndStart limit snapshot
  · obtain ⟨limit, snapshot, rfl⟩ := claim
    generalize (runCall env (.lockAndStart limit snapshot) db).1 = answer at wrote obtained
    generalize (runCall env (.lockAndStart limit snapshot) db).2 = after at wrote
    cases wrote with
    | quiet same silent =>
        cases answer with
        | error failure => simp [Call.obtained] at obtained
        | ok claimed =>
            have empty : claimed = [] := by simpa [Call.moved] using silent
            simp [Call.obtained, empty] at obtained
    | claimed locked all =>
        have batch := all.batch ledger.distinct ledger.readable
          (locked ▸ lockClaimable_distinct _ _ _ _ _ informed)
        obtain ⟨row, member, holds⟩ := batch.holds delivery obtained
        exact holds.stale member
  · have reads : ∀ limit snapshot, call ≠ .lockAndStart limit snapshot :=
      fun limit snapshot same => claim ⟨limit, snapshot, same⟩
    obtain ⟨row, member, read⟩ := obtained_read env call db reads delivery obtained
    exact wrote.stale ledger.distinct delivery
      (stale_read db row member (ledger.readable row member) delivery read)

theorem agrees_execute (world : World) (pid : Nat) (call : Call) (env : Env)
    (agrees : Agrees world) (informed : Informed world.db call) :
    Agrees (world.execute pid call env).2 := by
  have wrote := informed.wrote agrees.ledger env
  refine ⟨?_, ?_, ?_⟩
  · have counted := wrote.ledger informed agrees.ledger
    rw [World.execute_db]
    refine cast (congrArg (Ledger _) (funext fun id => ?_)) counted
    exact (transitions_execute id).symm
  · intro delivery obtained
    rcases (obtained_execute delivery).mp obtained with new | old
    · exact obtained_stale env call world.db _ agrees.ledger informed delivery new
    · exact wrote.stale agrees.ledger.distinct delivery (agrees.obtained delivery old)
  · intro snapshot began
    rcases (began_execute snapshot).mp began with new | old
    · cases call with
      | beginClaim =>
          cases answer : (runCall env .beginClaim world.db).1 with
          | error failure => simp [answer, Call.snapshots] at new
          | ok taken =>
              have result := query_ok _ _ _ _ _ answer
              obtain rfl : snapshot = taken := by simpa [answer, Call.snapshots] using new
              obtain rfl : { now := env.now, rows := world.db.deliveries } = snapshot := by
                simpa using result
              exact agrees.ledger.distinct
      | _ => simp [Call.snapshots] at new
    · exact agrees.snapshots snapshot old

theorem agrees_initial (db : Db) (initial : db.Initial) : Agrees (World.initial db) where
  ledger :=
    { distinct := by simp [World.initial, initial.deliveries]
      events_known := by simp [World.initial, initial.deliveryEvents]
      attempts_known := by simp [World.initial, initial.deliveryAttempts]
      unplanned := fun _ _ => rfl
      readable := by simp [World.initial, initial.deliveries]
      tells := by simp [World.initial, initial.deliveries] }
  obtained := by simp [World.Obtained, World.initial]
  snapshots := by simp [World.Began, World.initial]

end SafeCameroon
