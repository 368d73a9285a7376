import SafeCameroon.Delivery.Exclusive
import SafeCameroon.Library.Ownership

namespace SafeCameroon

open Table Process Ownership

def InFlight (id : DeliveryId) (world : World) : Prop :=
  ∃ row ∈ world.db.deliveries, row.id = id ∧ row.status = .sending

/-- Nothing happened to the delivery, nor was a message sent for it. -/
structure Untouched (id : DeliveryId) (s t : World) : Prop where
  rows : ∀ row, row.id = id → (row ∈ s.db.deliveries ↔ row ∈ t.db.deliveries)
  sends : ∀ attempt, (id, attempt) ∈ sends s.history ↔ (id, attempt) ∈ sends t.history

theorem Untouched.inFlight {id : DeliveryId} {s t : World} (untouched : Untouched id s t)
    (inFlight : InFlight id s) : InFlight id t := by
  obtain ⟨row, member, same, status⟩ := inFlight
  exact ⟨row, (untouched.rows row same).mp member, same, status⟩

/-- What every call leaves behind. -/
structure Grows (mover : Nat) (s t : World) : Prop where
  entry : ∃ entry, entry.pid = mover ∧ t.history = entry :: s.history
  clock : s.clock ≤ t.clock
  stale : ∀ delivery, Stale s.db delivery → Stale t.db delivery
  attempts : ∀ attempt ∈ s.db.deliveryAttempts, attempt ∈ t.db.deliveryAttempts
  continues : Continues (fun _ => True) s.db t.db

/-- A key is a delivery in flight, and only a dispatching worker may own one. A worker that is dropped
may leave deliveries in flight behind unless the run is tidy. -/
def sendingDiscipline (rules : Rules deliveryMachine) (setup : WorkerSetup) (jobs : Nat → Job)
    (tidy : Prop) : Discipline rules DeliveryId where
  inv := Exclusive setup jobs
  grows := Grows
  guarded := InFlight
  same := Untouched
  entitled := fun pid _ => (jobs pid).isDispatch
  abandoned := fun own => tidy → own = ∅
  same_guarded := fun _ _ _ untouched inFlight => untouched.inFlight inFlight

def Call.isClaim : Call → Prop
  | .beginClaim => True
  | .lockAndStart _ _ => True
  | _ => False

/-- What the rules of a run must say: time goes on, and in a tidy run a dispatching worker meets
errors and is dropped only while it claims. -/
structure Watched (rules : Rules deliveryMachine) (jobs : Nat → Job) (tidy : Prop) : Prop where
  timely : ∀ pid call env world, rules.mayCall pid call env world → world.clock ≤ env.now
  errors : tidy → ∀ pid call env world failure, (jobs pid).isDispatch →
    rules.mayCall pid call env world → (runCall env call world.db).1 = .error failure → call.isClaim
  drops : tidy → ∀ pid call world, (jobs pid).isDispatch → rules.mayHalt pid call world → call.isClaim

theorem Wrote.attempts {env : Env} {db after : Db} {call : Call} {answer : Except Failure call.Res}
    (wrote : Wrote env db after call answer) (attempt : DeliveryAttemptRow)
    (member : attempt ∈ db.deliveryAttempts) : attempt ∈ after.deliveryAttempts := by
  cases wrote with
  | quiet same silent => exact same.attempts ▸ member
  | planned inserted => exact inserted.attempts ▸ member
  | claimed locked all =>
      clear locked
      induction all with
      | none => exact member
      | more first rest ih =>
          obtain ⟨_, _, _, _, advanced⟩ := first.claimed
          exact ih (by rw [advanced.attempts]; exact List.mem_append_left _ member)
  | applied advanced =>
      rw [advanced.attempts]
      exact List.mem_append_left _ member
  | attempted advanced =>
      rw [advanced.attempts]
      exact List.mem_append_left _ member

section Step

variable {setup : WorkerSetup} {jobs : Nat → Job} {world : World} {pid : Nat} {call : Call}
  {env : Env}

theorem grows_execute (exclusive : Exclusive setup jobs world)
    (proper : Proper setup (jobs pid) pid world.db world.history call)
    (timely : world.clock ≤ env.now) : Grows pid world (world.execute pid call env).2 := by
  have informed := Proper.informed setup (jobs pid) pid world call exclusive.agrees proper
  have wrote := informed.wrote exclusive.agrees.ledger env
  have continues := wrote.continues informed exclusive.agrees.ledger
  exact
    { entry := ⟨_, rfl, rfl⟩
      clock := timely
      stale := fun delivery stale => wrote.stale exclusive.agrees.ledger.distinct delivery stale
      attempts := wrote.attempts
      continues := ⟨continues.kept, fun row member => (continues.origin row member).imp_right
        fun _ => trivial⟩ }

def Call.isQuiet : Call → Prop
  | .lockAndStart _ _ => False
  | .send _ _ _ _ => False
  | .applyAttemptTransition _ _ => False
  | _ => True

theorem recordDeliveryDelivered_sent (fresh : Supply) (before delivery : Delivery) (actor : Actor)
    (requestId : Uuid) (transition : DeliveryTransition)
    (h : recordDeliveryDelivered fresh before actor requestId = .ok (delivery, transition)) :
    before.status = .sent ∧ delivery.status = .delivered := by
  simp only [recordDeliveryDelivered, bind_ok, pure, Except.pure, Except.ok.injEq,
    Prod.mk.injEq] at h
  obtain ⟨⟨after, event⟩, recorded, rfl, rfl⟩ := h
  by_cases sent : before.status = .sent
  · simp only [Delivery.recordDelivered, sent, if_true, Except.ok.injEq, Prod.mk.injEq] at recorded
    exact ⟨sent, by rw [← recorded.1]⟩
  · simp [Delivery.recordDelivered, sent] at recorded

theorem sends_quiet (quiet : call.isQuiet) :
    sends (world.execute pid call env).2.history = sends world.history := by
  rw [World.execute_history, sends_cons]
  cases call with
  | send deliveryId attempt channel message => exact absurd quiet id
  | _ => rfl

theorem inFlight_quiet (exclusive : Exclusive setup jobs world)
    (proper : Proper setup (jobs pid) pid world.db world.history call) (quiet : call.isQuiet)
    (id : DeliveryId) :
    (InFlight id world → Untouched id world (world.execute pid call env).2) ∧
      (InFlight id (world.execute pid call env).2 → InFlight id world) := by
  have informed := Proper.informed setup (jobs pid) pid world call exclusive.agrees proper
  have wrote := informed.wrote exclusive.agrees.ledger env
  have distinct := exclusive.agrees.ledger.distinct
  have unsent : ∀ attempt, (id, attempt) ∈ sends world.history ↔
      (id, attempt) ∈ sends (world.execute pid call env).2.history := by
    intro attempt
    rw [sends_quiet quiet]
  suffices rows : (InFlight id world → ∀ row, row.id = id → (row ∈ world.db.deliveries ↔
      row ∈ (runCall env call world.db).2.deliveries)) ∧
      ((∃ row ∈ (runCall env call world.db).2.deliveries, row.id = id ∧ row.status = .sending) →
        InFlight id world) from
    ⟨fun inFlight => ⟨rows.1 inFlight, unsent⟩, rows.2⟩
  generalize (runCall env call world.db).1 = answer at wrote
  generalize (runCall env call world.db).2 = after at wrote
  cases wrote with
  | quiet same silent =>
      rw [same.deliveries]
      exact ⟨fun _ _ _ => Iff.rfl, fun inFlight => inFlight⟩
  | @planned item inserted =>
      refine ⟨?_, ?_⟩
      · rintro ⟨stored, inTable, same, _⟩ row equal
        rw [inserted.rows row]
        refine ⟨Or.inl, fun later => later.resolve_right fun added => inserted.unused ?_⟩
        have key : stored.id = (plannedRow env.now item).id := by rw [same, ← equal, added]
        exact List.mem_map.mpr ⟨stored, inTable, key⟩
      · rintro ⟨row, member, same, status⟩
        rcases (inserted.rows row).mp member with old | rfl
        · exact ⟨row, old, same, status⟩
        · have queued := PlannedDelivery.Fresh.status informed
          simp [plannedRow, queued] at status
  | claimed locked all => exact absurd quiet fun h => h
  | attempted advanced => exact absurd quiet fun h => h
  | @applied delivery transition advanced =>
      obtain ⟨fresh, before, actor, requestId, stale, result⟩ := proper
      obtain ⟨sent, delivered⟩ := recordDeliveryDelivered_sent fresh before delivery actor requestId
        transition result
      have moves := recordDeliveryDelivered_moves fresh before delivery actor requestId transition
        result
      obtain ⟨current, inTable, equal, version⟩ := advanced.matched
      have atCurrent := stale.current world.db before current distinct inTable
        (equal.trans moves.id)
      have status : current.status = .sent := by
        have next := moves.version
        have life := atCurrent.2.2 (by change before.version = current.aggregateVersion; omega)
        have same : before.status = current.status := congrArg DeliveryLife.State.status life
        rw [← same, sent]
      refine ⟨?_, ?_⟩
      · rintro ⟨stored, member, same, sending⟩ row key
        have differs : id ≠ delivery.id := by
          intro subject
          have key : stored.id = current.id := calc
            stored.id = id := same
            _ = delivery.id := subject
            _ = current.id := equal.symm
          obtain rfl := eq_of_key (·.id) _ distinct stored current member inTable key
          rw [status] at sending
          simp at sending
        rw [advanced.rows distinct row]
        refine ⟨fun old => Or.inl ⟨old, key ▸ differs⟩, ?_⟩
        rintro (old | ⟨earlier, _, owner, _, rfl⟩)
        · exact old.1
        · exact absurd (key.symm.trans owner) differs
      · rintro ⟨row, member, same, sending⟩
        rcases (advanced.rows distinct row).mp member with ⟨old, _⟩ | ⟨earlier, _, _, _, rfl⟩
        · exact ⟨row, old, same, sending⟩
        · simp [advancedRow, delivered] at sending

theorem keeps_quiet (rules : Rules deliveryMachine) (tidy : Prop)
    (exclusive : Exclusive setup jobs world)
    (proper : Proper setup (jobs pid) pid world.db world.history call)
    (timely : world.clock ≤ env.now) (quiet : call.isQuiet) (own : Set DeliveryId)
    (inFlight : ∀ id ∈ own, InFlight id world) (entitled : own = ∅ ∨ (jobs pid).isDispatch) :
    Keeps (sendingDiscipline rules setup jobs tidy) pid own world own
      (world.execute pid call env).2 where
  inv := exclusive_execute exclusive proper timely
  grows := grows_execute exclusive proper timely
  entitled := fun id member => entitled.resolve_left (Set.nonempty_iff_ne_empty.mp ⟨id, member⟩)
  frame := fun id _ guarded => (inFlight_quiet exclusive proper quiet id).1 guarded
  owned := fun id member =>
    ((inFlight_quiet exclusive proper quiet id).1 (inFlight id member)).inFlight (inFlight id member)
  fresh := fun _ member => Or.inl member
  accounted := fun id guarded => by
    by_cases mine : id ∈ own
    · exact Or.inl mine
    · exact Or.inr ⟨(inFlight_quiet exclusive proper quiet id).2 guarded, mine⟩

theorem keeps_send (rules : Rules deliveryMachine) (tidy : Prop)
    (exclusive : Exclusive setup jobs world) (deliveryId : DeliveryId) (attempt : Nat)
    (channel : ChannelType) (message : OutboundMessage)
    (proper : Proper setup (jobs pid) pid world.db world.history
      (.send deliveryId attempt channel message))
    (timely : world.clock ≤ env.now) (own : Set DeliveryId) (mine : deliveryId ∈ own)
    (inFlight : ∀ id ∈ own, InFlight id world) (entitled : (jobs pid).isDispatch) :
    Keeps (sendingDiscipline rules setup jobs tidy) pid own world own
      (world.execute pid (.send deliveryId attempt channel message) env).2 where
  inv := exclusive_execute exclusive proper timely
  grows := grows_execute exclusive proper timely
  entitled := fun _ _ => entitled
  frame := fun id foreign _ => ⟨fun _ _ => Iff.rfl, fun number => by
    have differs : id ≠ deliveryId := fun same => foreign (same ▸ mine)
    simp [Call.sent, differs]⟩
  owned := inFlight
  fresh := fun _ member => Or.inl member
  accounted := fun id guarded => by
    by_cases owned : id ∈ own
    · exact Or.inl owned
    · exact Or.inr ⟨guarded, owned⟩

def claimedIds (claimed : List Delivery) : Set DeliveryId :=
  { id | id ∈ claimed.map (·.id) }

theorem not_inFlight_claimed {now : Timestamp} {rows : List DeliveryRow} {claimed : List Delivery}
    {after : Db} (distinct : (world.db.deliveries.map (·.id)).Nodup)
    (batch : Batch now rows claimed world.db after) (id : DeliveryId)
    (member : id ∈ claimed.map (·.id)) : ¬ InFlight id world := by
  rintro ⟨stored, inTable, same, status⟩
  obtain ⟨delivery, inClaimed, equal⟩ := List.mem_map.mp member
  obtain ⟨row, inZip⟩ := batch.row_of_claimed delivery inClaimed
  have start : StartOf row delivery := batch.start _ inZip
  have key : stored.id = row.id := calc
    stored.id = id := same
    _ = delivery.id := equal.symm
    _ = row.id := start.same.id.symm
  obtain rfl := eq_of_key (·.id) _ distinct stored row inTable (batch.row_mem _ inZip) key
  rcases start.ready with ready | ready
  · simp [ready] at status
  · simp [ready] at status

theorem keeps_claim (rules : Rules deliveryMachine) (tidy : Prop)
    (exclusive : Exclusive setup jobs world) (limit : Nat) (snapshot : ClaimSnapshot)
    (proper : Proper setup (jobs pid) pid world.db world.history (.lockAndStart limit snapshot))
    (timely : world.clock ≤ env.now) (entitled : (jobs pid).isDispatch) (rows : List DeliveryRow)
    (claimed : List Delivery)
    (batch : Batch snapshot.now rows claimed world.db
      (world.execute pid (.lockAndStart limit snapshot) env).2.db) :
    Keeps (sendingDiscipline rules setup jobs tidy) pid ∅ world (claimedIds claimed)
      (world.execute pid (.lockAndStart limit snapshot) env).2 where
  inv := exclusive_execute exclusive proper timely
  grows := grows_execute exclusive proper timely
  entitled := fun _ _ => entitled
  frame := fun id _ guarded => by
    have outside : id ∉ rows.map (·.id) := fun inside => not_inFlight_claimed
      exclusive.agrees.ledger.distinct batch id (batch.ids ▸ inside) guarded
    refine ⟨fun row equal => (batch.other row (equal ▸ outside)).symm, fun number => ?_⟩
    simp [Call.sent]
  owned := fun id member => by
    obtain ⟨delivery, inClaimed, same⟩ := List.mem_map.mp member
    obtain ⟨row, inZip⟩ := batch.row_of_claimed delivery inClaimed
    refine ⟨advancedRow snapshot.now delivery row, (batch.tables _).mpr (Or.inr ⟨_, inZip, rfl⟩), ?_,
      (batch.start _ inZip).status⟩
    exact (batch.start _ inZip).same.id.trans same
  fresh := fun id member => Or.inr
    (not_inFlight_claimed exclusive.agrees.ledger.distinct batch id member)
  accounted := fun id guarded => by
    obtain ⟨row, member, same, status⟩ := guarded
    rcases (batch.tables row).mp member with ⟨old, _⟩ | ⟨pair, inZip, rfl⟩
    · exact Or.inr ⟨⟨row, old, same, status⟩, Set.notMem_empty _⟩
    · refine Or.inl (List.mem_map.mpr ⟨pair.2, (List.of_mem_zip inZip).2, ?_⟩)
      exact (batch.start _ inZip).same.id.symm.trans same

theorem untouched_attempt (pid : Nat) (distinct : (world.db.deliveries.map (·.id)).Nodup)
    (delivery : Delivery) (transition : DeliveryAttemptTransition)
    (advanced : Advanced env.now delivery transition.event (some transition.attempt) world.db
      (world.execute pid (.applyAttemptTransition delivery transition) env).2.db)
    (id : DeliveryId) (differs : id ≠ delivery.id) :
    Untouched id world (world.execute pid (.applyAttemptTransition delivery transition) env).2 := by
  refine ⟨fun row same => ?_, fun number => by simp [Call.sent]⟩
  rw [advanced.rows distinct row]
  refine ⟨fun old => Or.inl ⟨old, same ▸ differs⟩, ?_⟩
  rintro (old | ⟨earlier, _, owner, _, rfl⟩)
  · exact old.1
  · exact absurd (same.symm.trans owner) differs

theorem keeps_attempt (rules : Rules deliveryMachine) (tidy : Prop)
    (exclusive : Exclusive setup jobs world) (delivery : Delivery)
    (transition : DeliveryAttemptTransition)
    (proper : Proper setup (jobs pid) pid world.db world.history
      (.applyAttemptTransition delivery transition))
    (timely : world.clock ≤ env.now) (own kept : Set DeliveryId) (mine : delivery.id ∈ own)
    (rest : kept = own \ {delivery.id}) (ended : delivery.status ≠ .sending)
    (inFlight : ∀ id ∈ own, InFlight id world)
    (advanced : Advanced env.now delivery transition.event (some transition.attempt) world.db
      (world.execute pid (.applyAttemptTransition delivery transition) env).2.db) :
    Keeps (sendingDiscipline rules setup jobs tidy) pid own world kept
      (world.execute pid (.applyAttemptTransition delivery transition) env).2 := by
  have distinct := exclusive.agrees.ledger.distinct
  have others := untouched_attempt pid distinct delivery transition advanced
  subst rest
  exact
    { inv := exclusive_execute exclusive proper timely
      grows := grows_execute exclusive proper timely
      entitled := fun _ _ => proper.1
      frame := fun id foreign _ => others id fun same => foreign (same ▸ mine)
      owned := fun id member => (others id member.2).inFlight (inFlight id member.1)
      fresh := fun id member => Or.inl member.1
      accounted := fun id guarded => by
        obtain ⟨row, member, same, status⟩ := guarded
        rcases (advanced.rows distinct row).mp member with ⟨old, differs⟩ | ⟨_, _, _, _, rfl⟩
        · by_cases owned : id ∈ own
          · exact Or.inl ⟨owned, fun equal => differs (same.trans equal)⟩
          · exact Or.inr ⟨⟨row, old, same, status⟩, owned⟩
        · exact absurd status ended }

theorem keeps_error (rules : Rules deliveryMachine) (tidy : Prop)
    (exclusive : Exclusive setup jobs world)
    (proper : Proper setup (jobs pid) pid world.db world.history call)
    (timely : world.clock ≤ env.now) (unsent : call.sent = []) (own : Set DeliveryId)
    (inFlight : ∀ id ∈ own, InFlight id world) (entitled : own = ∅ ∨ (jobs pid).isDispatch)
    (same : (runCall env call world.db).2 = world.db) :
    Keeps (sendingDiscipline rules setup jobs tidy) pid own world own
      (world.execute pid call env).2 where
  inv := exclusive_execute exclusive proper timely
  grows := grows_execute exclusive proper timely
  entitled := fun id member => entitled.resolve_left (Set.nonempty_iff_ne_empty.mp ⟨id, member⟩)
  frame := fun id _ _ => ⟨fun row _ => by rw [World.execute_db, same], fun number => by simp [unsent]⟩
  owned := fun id member => by
    obtain ⟨row, inTable, rest⟩ := inFlight id member
    exact ⟨row, by rw [World.execute_db, same]; exact inTable, rest⟩
  fresh := fun _ member => Or.inl member
  accounted := fun id guarded => by
    obtain ⟨row, inTable, rest⟩ := guarded
    rw [World.execute_db, same] at inTable
    by_cases mine : id ∈ own
    · exact Or.inl mine
    · exact Or.inr ⟨⟨row, inTable, rest⟩, mine⟩

end Step

def Firm (own : Set DeliveryId) (fact : World → Prop) : Prop :=
  ∀ mover s t, fact s → Grows mover s t → (∀ id ∈ own, Untouched id s t) → fact t

theorem Firm.stable (rules : Rules deliveryMachine) (setup : WorkerSetup) (jobs : Nat → Job)
    (tidy : Prop) (pid : Nat) (own : Set DeliveryId) (fact : World → Prop) (firm : Firm own fact) :
    Stable (sendingDiscipline rules setup jobs tidy) pid own fact :=
  fun mover s t _ known _ _ grows untouched => firm mover s t known grows untouched

/-- A process that never owns a delivery in flight ends without one. -/
def Outside {ε α : Type} : Post deliveryMachine DeliveryId ε α := fun kept _ _ => kept = ∅

section Outside

variable {rules : Rules deliveryMachine} {setup : WorkerSetup} {jobs : Nat → Job} {tidy : Prop}
  (watched : Watched rules jobs tidy) {pid : Nat}
include watched

theorem safe_outside {ε β : Type} (call : Call) (quiet : call.isQuiet) (raise : Failure → ε)
    (fact : World → Prop) (learns : call.Res → World → Prop)
    (proper : ∀ world : World, fact world → Exclusive setup jobs world →
      Proper setup (jobs pid) pid world.db world.history call)
    (stable : ∀ value, Stable (sendingDiscipline rules setup jobs tidy) pid ∅ (learns value))
    (learned : ∀ env world value, Exclusive setup jobs world → fact world →
      (runCall env call world.db).1 = .ok value → learns value (world.execute pid call env).2) :
    Safe (sendingDiscipline rules setup jobs tidy) pid
      (Continue (fun _ => ∅) learns (Outside (ε := ε) (α := β)))
      (Proc.perform (I := deliveryInterface) call raise) ∅ fact := by
  have keeps : ∀ (env : Env) (world : World), Exclusive setup jobs world → fact world →
      rules.mayCall pid call env world →
        Keeps (sendingDiscipline rules setup jobs tidy) pid ∅ world ∅
          (world.execute pid call env).2 := fun env world exclusive known legal =>
    keeps_quiet rules tidy exclusive (proper world known exclusive)
      (watched.timely pid call env world legal) quiet ∅
      (fun _ member => absurd member (Set.notMem_empty _)) (Or.inl rfl)
  refine safe_perform (sendingDiscipline rules setup jobs tidy) pid call _ _ _ _
    (fun _ _ _ _ _ => rfl) ?_ ?_
  · intro (env : Env) (world : World) value exclusive known legal answer
    exact ⟨∅, keeps env world exclusive known legal,
      stable_and _ pid _ _ _ (stable_const _ pid _ _) (stable value), rfl,
      learned env world value exclusive known answer⟩
  · intro (env : Env) (world : World) failure exclusive known legal answer
    exact ⟨∅, keeps env world exclusive known legal, stable_const _ pid _ _, rfl⟩

end Outside

end SafeCameroon
