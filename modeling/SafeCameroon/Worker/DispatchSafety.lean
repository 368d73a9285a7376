import SafeCameroon.Delivery.Sending

namespace SafeCameroon

open Table Process Ownership

/-- The delivery is the attempt in flight that was handed out. -/
structure Held (delivery : Delivery) (world : World) : Prop where
  sending : delivery.status = .sending
  stored : ∃ row ∈ world.db.deliveries, Holds row delivery
  handed : (delivery.id, delivery.attemptCount) ∈ handedOut world.history

def Unsent (delivery : Delivery) (world : World) : Prop :=
  (delivery.id, delivery.attemptCount) ∉ sends world.history

theorem Held.inFlight {delivery : Delivery} {world : World} (held : Held delivery world) :
    InFlight delivery.id world := by
  obtain ⟨row, member, holds⟩ := held.stored
  exact ⟨row, member, holds.same.id,
    (congrArg DeliveryLife.State.status holds.life).trans held.sending⟩

theorem Grows.handedOut {mover : Nat} {s t : World} (grows : Grows mover s t)
    (pair : DeliveryId × Nat) (member : pair ∈ handedOut s.history) :
    pair ∈ SafeCameroon.handedOut t.history := by
  obtain ⟨entry, _, later⟩ := grows.entry
  rw [later, handedOut_cons]
  exact List.mem_append_right _ member

theorem Held.survives {delivery : Delivery} {mover : Nat} {s t : World} (held : Held delivery s)
    (grows : Grows mover s t) (untouched : Untouched delivery.id s t) : Held delivery t := by
  obtain ⟨row, member, holds⟩ := held.stored
  exact ⟨held.sending, ⟨row, (untouched.rows row holds.same.id).mp member, holds⟩,
    grows.handedOut _ held.handed⟩

theorem Unsent.survives {delivery : Delivery} {s t : World} (unsent : Unsent delivery s)
    (untouched : Untouched delivery.id s t) : Unsent delivery t :=
  fun sent => unsent ((untouched.sends _).mpr sent)

/-- The deliveries of a batch that still wait for their turn. -/
def owns (elements : List (Delivery × Nat)) : Set DeliveryId :=
  { id | id ∈ elements.map (·.1.id) }

theorem head_outside (head : Delivery × Nat) (tail : List (Delivery × Nat))
    (apart : ((head :: tail).map (·.1.id)).Nodup) : head.1.id ∉ owns tail :=
  (List.nodup_cons.mp apart).1

structure Remaining (elements : List (Delivery × Nat)) (world : World) : Prop where
  apart : (elements.map (·.1.id)).Nodup
  held : ∀ element ∈ elements, Held element.1 world
  unsent : ∀ element ∈ elements, Unsent element.1 world

theorem mem_owns {elements : List (Delivery × Nat)} {element : Delivery × Nat}
    (member : element ∈ elements) : element.1.id ∈ owns elements :=
  List.mem_map.mpr ⟨element, member, rfl⟩

theorem remaining_firm (elements : List (Delivery × Nat)) :
    Firm (owns elements) (Remaining elements) := fun _ _ _ remaining grows untouched =>
  { apart := remaining.apart
    held := fun element member => (remaining.held element member).survives grows
      (untouched _ (mem_owns member))
    unsent := fun element member => (remaining.unsent element member).survives
      (untouched _ (mem_owns member)) }

/-- One delivery of a batch has its turn, whether its message was sent yet or not. -/
structure Turn (head : Delivery × Nat) (tail : List (Delivery × Nat)) (world : World) : Prop where
  apart : ((head :: tail).map (·.1.id)).Nodup
  held : Held head.1 world
  rest : Remaining tail world

theorem turn_firm (head : Delivery × Nat) (tail : List (Delivery × Nat)) :
    Firm (owns (head :: tail)) (Turn head tail) := fun mover s t turn grows untouched =>
  { apart := turn.apart
    held := turn.held.survives grows (untouched _ (mem_owns List.mem_cons_self))
    rest := remaining_firm tail mover s t turn.rest grows fun id member =>
      untouched id (List.mem_cons_of_mem _ member) }

theorem Remaining.turn {head : Delivery × Nat} {tail : List (Delivery × Nat)} {world : World}
    (remaining : Remaining (head :: tail) world) : Turn head tail world where
  apart := remaining.apart
  held := remaining.held head List.mem_cons_self
  rest :=
    { apart := (List.nodup_cons.mp remaining.apart).2
      held := fun element member => remaining.held element (List.mem_cons_of_mem _ member)
      unsent := fun element member => remaining.unsent element (List.mem_cons_of_mem _ member) }

theorem Turn.inFlight {head : Delivery × Nat} {tail : List (Delivery × Nat)} {world : World}
    (turn : Turn head tail world) : ∀ id ∈ owns (head :: tail), InFlight id world := by
  intro id member
  rcases List.mem_cons.mp member with rfl | inTail
  · exact turn.held.inFlight
  · obtain ⟨element, inRest, rfl⟩ := List.mem_map.mp inTail
    exact (turn.rest.held element inRest).inFlight

/-- A worker ends with nothing in flight unless the run is untidy, and never at an `expect` of its
own. -/
def WorkerEnds (tidy : Prop) {α : Type} : Post deliveryMachine DeliveryId WorkerError α :=
  fun kept answer _ => (tidy → kept = ∅) ∧ ∀ message, answer ≠ .error (.expectation message)

theorem Delivery.Moves.ended {before delivery : Delivery} {event : DeliveryEvent}
    {attempt : DeliveryAttempt} (moves : Delivery.Moves before delivery event (some attempt)) :
    delivery.status ≠ .sending := by
  have step := moves.step
  intro sending
  generalize before.life = first at step
  generalize last : delivery.life = final at step
  generalize event.eventType = eventType at step
  have status : final.status = .sending := last ▸ sending
  cases step with
  | success inFlight => simp at status
  | retry inFlight => simp at status
  | failure inFlight => simp at status

def Records (before delivery : Delivery) (transition : DeliveryAttemptTransition) : Prop :=
  ∃ fresh actor requestId,
    (∃ messageId, recordDeliverySuccess fresh before messageId actor requestId =
        .ok (delivery, transition)) ∨
      ∃ retryable reason, recordDeliveryFailure fresh before retryable reason actor requestId =
        .ok (delivery, transition)

theorem Records.moves {before delivery : Delivery} {transition : DeliveryAttemptTransition}
    (records : Records before delivery transition) :
    Delivery.Moves before delivery transition.event (some transition.attempt) := by
  obtain ⟨fresh, actor, requestId, ⟨messageId, result⟩ | ⟨retryable, reason, result⟩⟩ := records
  · exact recordDeliverySuccess_moves fresh before delivery messageId actor requestId transition result
  · exact recordDeliveryFailure_moves fresh before delivery retryable reason actor requestId transition
      result

theorem recordDeliverySuccess_sending (fresh : Supply) (delivery : Delivery)
    (messageId : Option String) (actor : Actor) (requestId : Uuid)
    (sending : delivery.status = .sending) :
    ∃ result, recordDeliverySuccess fresh delivery messageId actor requestId = .ok result := by
  simp [recordDeliverySuccess, Delivery.recordSuccess, sending, bind, Except.bind, pure, Except.pure]

theorem recordDeliveryFailure_sending (fresh : Supply) (delivery : Delivery) (retryable : Bool)
    (reason : String) (actor : Actor) (requestId : Uuid) (sending : delivery.status = .sending) :
    ∃ result, recordDeliveryFailure fresh delivery retryable reason actor requestId = .ok result := by
  simp [recordDeliveryFailure, Delivery.recordFailure, sending, bind, Except.bind, pure, Except.pure]

theorem zipIdx_ids (claimed : List Delivery) :
    claimed.zipIdx.map (·.1.id) = claimed.map (·.id) := by
  calc claimed.zipIdx.map (·.1.id)
      = (claimed.zipIdx.map Prod.fst).map (·.id) := (List.map_map).symm
    _ = claimed.map (·.id) := by rw [List.zipIdx_map_fst]

theorem owns_zipIdx (claimed : List Delivery) : owns claimed.zipIdx = claimedIds claimed := by
  rw [owns, zipIdx_ids]
  rfl

theorem remaining_claimed {setup : WorkerSetup} {jobs : Nat → Job} {pid : Nat} {world : World}
    {env : Env} (exclusive : Exclusive setup jobs world)
    (limit : Nat) (snapshot : ClaimSnapshot)
    (proper : Proper setup (jobs pid) pid world.db world.history (.lockAndStart limit snapshot))
    (rows : List DeliveryRow) (claimed : List Delivery)
    (answer : (runCall env (.lockAndStart limit snapshot) world.db).1 = .ok claimed)
    (apart : (claimed.map (·.id)).Nodup)
    (batch : Batch snapshot.now rows claimed world.db
      (runCall env (.lockAndStart limit snapshot) world.db).2) :
    Remaining claimed.zipIdx (world.execute pid (.lockAndStart limit snapshot) env).2 := by
  have handed := handed_new env exclusive proper
  rw [answer] at handed
  have pairs : ∀ delivery ∈ claimed, (delivery.id, delivery.attemptCount) ∈
      Call.handed (.lockAndStart limit snapshot) (.ok claimed) := fun delivery member =>
    List.mem_map.mpr ⟨delivery, member, rfl⟩
  refine ⟨?_, fun element member => ?_, fun element member => ?_⟩
  · rw [zipIdx_ids]
    exact apart
  · have inClaimed := List.fst_mem_of_mem_zipIdx member
    obtain ⟨row, inZip⟩ := batch.row_of_claimed element.1 inClaimed
    refine ⟨(batch.start _ inZip).status, batch.holds element.1 inClaimed, ?_⟩
    rw [World.execute_history, handedOut_cons, answer]
    exact List.mem_append_left _ (pairs element.1 inClaimed)
  · have inClaimed := List.fst_mem_of_mem_zipIdx member
    have unsent : sends (world.execute pid (.lockAndStart limit snapshot) env).2.history =
        sends world.history := by simp [Call.sent]
    intro sent
    rw [unsent] at sent
    exact (handed.2 _ (pairs element.1 inClaimed)).2.1 (exclusive.claimed _ sent)

section Dispatch

variable {rules : Rules deliveryMachine} {setup : WorkerSetup} {jobs : Nat → Job} {tidy : Prop}
  (watched : Watched rules jobs tidy) {pid : Nat} (dispatching : (jobs pid).isDispatch)
include watched dispatching

theorem safe_read (call : Call) (quiet : call.isQuiet) (plain : ¬ call.isClaim)
    (own : Set DeliveryId) (fact : World → Prop) (firm : Firm own fact)
    (inFlight : ∀ world, fact world → ∀ id ∈ own, InFlight id world)
    (proper : ∀ world : World, Proper setup (jobs pid) pid world.db world.history call) {β : Type} :
    Safe (sendingDiscipline rules setup jobs tidy) pid
      (Continue (fun _ => own) (fun _ => fact) (WorkerEnds tidy (α := β))) (ask call) own fact := by
  have keeps : ∀ (env : Env) (world : World), Exclusive setup jobs world → fact world →
      rules.mayCall pid call env world →
        Keeps (sendingDiscipline rules setup jobs tidy) pid own world own
          (world.execute pid call env).2 := fun env world exclusive known legal =>
    keeps_quiet rules tidy exclusive (proper world) (watched.timely pid call env world legal) quiet
      own (inFlight world known) (Or.inr dispatching)
  refine safe_perform (sendingDiscipline rules setup jobs tidy) pid call _ _ own fact
    (fun world _ _ halt calm => absurd (watched.drops calm pid call world dispatching halt) plain)
    ?_ ?_
  · intro (env : Env) (world : World) value exclusive known legal answer
    have kept := keeps env world exclusive known legal
    refine ⟨own, kept, stable_and _ pid own _ _ (stable_const _ pid own _)
      (firm.stable rules setup jobs tidy pid own fact), rfl, ?_⟩
    exact firm pid world _ known kept.grows fun id member =>
      (inFlight_quiet exclusive (proper world) quiet id).1 (inFlight world known id member)
  · intro (env : Env) (world : World) failure exclusive known legal answer
    refine ⟨own, keeps env world exclusive known legal, stable_const _ pid own _, fun calm => ?_,
      by simp⟩
    exact absurd (watched.errors calm pid call env world failure dispatching legal answer) plain

theorem safe_send (head : Delivery × Nat) (tail : List (Delivery × Nat)) (channel : ChannelType)
    (message : OutboundMessage) {β : Type} :
    Safe (sendingDiscipline rules setup jobs tidy) pid
      (Continue (fun _ => owns (head :: tail)) (fun _ => Turn head tail)
        (WorkerEnds tidy (α := β)))
      (ask (.send head.1.id head.1.attemptCount channel message)) (owns (head :: tail))
      (Remaining (head :: tail)) := by
  have proper : ∀ world : World, Remaining (head :: tail) world →
      Proper setup (jobs pid) pid world.db world.history
        (.send head.1.id head.1.attemptCount channel message) := fun world remaining =>
    ⟨(remaining.held head List.mem_cons_self).handed, remaining.unsent head List.mem_cons_self⟩
  refine safe_perform (sendingDiscipline rules setup jobs tidy) pid
    (.send head.1.id head.1.attemptCount channel message) _ _ _ _
    (fun world _ _ halt calm => absurd (watched.drops calm pid _ world dispatching halt) id) ?_ ?_
  · intro (env : Env) (world : World) value exclusive remaining legal _
    have keeps := keeps_send rules tidy exclusive head.1.id head.1.attemptCount channel message
      (proper world remaining) (watched.timely pid _ env world legal) (owns (head :: tail))
      (mem_owns List.mem_cons_self) remaining.turn.inFlight dispatching
    refine ⟨_, keeps, stable_and _ pid _ _ _ (stable_const _ pid _ _)
      ((turn_firm head tail).stable rules setup jobs tidy pid _ _), rfl, remaining.apart, ?_, ?_⟩
    · have held := remaining.held head List.mem_cons_self
      exact ⟨held.sending, held.stored, keeps.grows.handedOut _ held.handed⟩
    · refine ⟨remaining.turn.rest.apart, fun element member => ?_, fun element member => ?_⟩
      · have held := remaining.turn.rest.held element member
        exact ⟨held.sending, held.stored, keeps.grows.handedOut _ held.handed⟩
      · have differs : element.1.id ≠ head.1.id := fun same =>
          head_outside head tail remaining.apart (same ▸ mem_owns member)
        have unsent := remaining.turn.rest.unsent element member
        simpa [Unsent, Call.sent, differs] using unsent
  · intro (env : Env) (world : World) failure _ _ _ answer
    simp [runCall] at answer

theorem safe_record (head : Delivery × Nat) (tail : List (Delivery × Nat)) (delivery : Delivery)
    (transition : DeliveryAttemptTransition) (records : Records head.1 delivery transition)
    {β : Type} :
    Safe (sendingDiscipline rules setup jobs tidy) pid
      (Continue (fun _ => owns tail) (fun _ => Remaining tail) (WorkerEnds tidy (α := β)))
      (ask (.applyAttemptTransition delivery transition)) (owns (head :: tail))
      (Turn head tail) := by
  have same : delivery.id = head.1.id := records.moves.id
  have proper : ∀ world : World, Turn head tail world →
      Proper setup (jobs pid) pid world.db world.history
        (.applyAttemptTransition delivery transition) := by
    intro world turn
    obtain ⟨fresh, actor, requestId, result⟩ := records
    exact ⟨dispatching, fresh, head.1, actor, requestId, turn.held.stored, result⟩
  refine safe_perform (sendingDiscipline rules setup jobs tidy) pid
    (.applyAttemptTransition delivery transition) _ _ _ _
    (fun world _ _ halt calm => absurd (watched.drops calm pid _ world dispatching halt) id) ?_ ?_
  · intro (env : Env) (world : World) outcome exclusive turn legal answer
    have informed := Proper.informed setup (jobs pid) pid world _ exclusive.agrees (proper world turn)
    have wrote := informed.wrote exclusive.agrees.ledger env
    have orderly := orderly_execute env exclusive (proper world turn)
      (watched.timely pid _ env world legal)
    have applied : (runCall env (.applyAttemptTransition delivery transition) world.db).1 =
        .ok outcome := answer
    rw [applied] at wrote orderly
    obtain rfl : outcome = .applied := orderly dispatching
    have advanced : Advanced env.now delivery transition.event (some transition.attempt) world.db
        (world.execute pid (.applyAttemptTransition delivery transition) env).2.db := by
      rw [World.execute_db]
      generalize (runCall env (.applyAttemptTransition delivery transition) world.db).2 = after
        at wrote
      cases wrote with
      | quiet unmoved silent => simp [Call.moved] at silent
      | attempted advanced => exact advanced
    have outside := head_outside head tail turn.apart
    have rest : owns tail = owns (head :: tail) \ {delivery.id} := by
      ext id
      simp only [owns, Set.mem_sdiff, Set.mem_ofPred_eq, Set.mem_singleton_iff, List.map_cons,
        List.mem_cons, same]
      constructor
      · exact fun inTail => ⟨Or.inr inTail, fun equal => outside (equal ▸ inTail)⟩
      · exact fun inBoth => inBoth.1.resolve_left inBoth.2
    have keeps := keeps_attempt rules tidy exclusive delivery transition (proper world turn)
      (watched.timely pid _ env world legal) (owns (head :: tail)) (owns tail)
      (same ▸ mem_owns List.mem_cons_self) rest records.moves.ended turn.inFlight advanced
    refine ⟨owns tail, keeps, stable_and _ pid _ _ _ (stable_const _ pid _ _)
      ((remaining_firm tail).stable rules setup jobs tidy pid _ _), rfl, ?_⟩
    refine remaining_firm tail pid world _ turn.rest keeps.grows fun id member => ?_
    exact untouched_attempt pid exclusive.agrees.ledger.distinct delivery transition advanced id
      fun equal => outside (same ▸ equal ▸ member)
  · intro (env : Env) (world : World) failure exclusive turn legal answer
    have calm : ¬ tidy := fun calm =>
      watched.errors calm pid _ env world failure dispatching legal answer
    refine ⟨owns (head :: tail), keeps_error rules tidy exclusive (proper world turn)
      (watched.timely pid _ env world legal) rfl _ turn.inFlight (Or.inr dispatching)
      (transaction_error _ _ _ _ failure answer), stable_const _ pid _ _,
      fun yes => absurd yes calm, by simp⟩

theorem safe_fail (head : Delivery × Nat) (tail : List (Delivery × Nat)) (fresh : Supply)
    (operationId : Uuid) (retryable : Bool) (reason : String) {β : Type} :
    Safe (sendingDiscipline rules setup jobs tidy) pid
      (Continue (fun _ => owns tail) (fun _ => Remaining tail) (WorkerEnds tidy (α := β)))
      (Dispatch.fail fresh head.1 operationId retryable reason) (owns (head :: tail))
      (Turn head tail) := by
  by_cases sending : head.1.status = .sending
  · obtain ⟨⟨delivery, transition⟩, result⟩ :=
      recordDeliveryFailure_sending fresh head.1 retryable reason .automated operationId sending
    have records : Records head.1 delivery transition :=
      ⟨fresh, .automated, operationId, Or.inr ⟨retryable, reason, result⟩⟩
    have program : Dispatch.fail fresh head.1 operationId retryable reason =
        (ask (.applyAttemptTransition delivery transition)).bind fun _ => .done () := by
      simp [Dispatch.fail, result, demand, Proc.bind]
    rw [program]
    exact safe_then _ pid _ _ _ _ _ (fun _ => owns tail) (fun _ => Remaining tail)
      (safe_record watched dispatching head tail delivery transition records (β := β))
      fun _ _ _ remaining => ⟨rfl, remaining⟩
  · exact safe_vacuous _ pid _ _ _ _ fun world _ turn => sending turn.held.sending

/-- A delivery of a batch is dispatched: its message is sent at most once and its outcome recorded. -/
theorem safe_dispatchOne (head : Delivery × Nat) (tail : List (Delivery × Nat)) (fresh : Supply)
    {β : Type} :
    Safe (sendingDiscipline rules setup jobs tidy) pid
      (Continue (fun _ => owns tail) (fun _ => Remaining tail) (WorkerEnds tidy (α := β)))
      (Dispatch.dispatchOne setup fresh head.1) (owns (head :: tail)) (Remaining (head :: tail)) := by
  have toTurn : ∀ world : World, Exclusive setup jobs world → Remaining (head :: tail) world →
      Turn head tail world := fun _ _ remaining => remaining.turn
  unfold Dispatch.dispatchOne
  split
  · refine safe_then _ pid _ _ _ _ _ (fun _ => owns (head :: tail))
      (fun _ => Remaining (head :: tail))
      (safe_read watched dispatching (.findAlert head.1.alertId) trivial id _ _
        (remaining_firm (head :: tail)) (fun _ remaining => remaining.turn.inFlight)
        (fun _ => trivial) (β := β)) fun alert => ?_
    cases alert with
    | none => exact safe_weaken _ pid _ _ _ _ _ toTurn (safe_fail watched dispatching head tail _ _ _ _
        (β := β))
    | some alert =>
        refine safe_then _ pid _ _ _ _ _ (fun _ => owns (head :: tail))
          (fun _ => Remaining (head :: tail))
          (safe_read watched dispatching (.findConsumer head.1.consumerId) trivial id _ _
            (remaining_firm (head :: tail)) (fun _ remaining => remaining.turn.inFlight)
            (fun _ => trivial) (β := β)) fun consumer => ?_
        refine safe_then _ pid _ _ _ _ _ (fun _ => owns (head :: tail)) (fun _ => Turn head tail)
          (safe_send watched dispatching head tail _ _ (β := β)) fun reply => ?_
        cases reply with
        | error error => exact safe_fail watched dispatching head tail _ _ _ _ (β := β)
        | ok outcome =>
            by_cases sending : head.1.status = .sending
            · obtain ⟨⟨delivery, transition⟩, result⟩ := recordDeliverySuccess_sending fresh head.1
                outcome.providerMessageId .automated (fresh 4) sending
              have records : Records head.1 delivery transition :=
                ⟨fresh, .automated, fresh 4, Or.inl ⟨outcome.providerMessageId, result⟩⟩
              simp only [result, demand, Proc.bind_def, Proc.bind, Proc.pure_def]
              exact safe_then _ pid _ _ _ _ _ (fun _ => owns tail) (fun _ => Remaining tail)
                (safe_record watched dispatching head tail delivery transition records (β := β))
                fun _ _ _ remaining => ⟨rfl, remaining⟩
            · exact safe_vacuous _ pid _ _ _ _ fun world _ turn => sending turn.held.sending
  · exact safe_weaken _ pid _ _ _ _ _ toTurn (safe_fail watched dispatching head tail _ _ _ _
        (β := β))

omit dispatching in
theorem safe_beginClaim {β : Type} :
    Safe (sendingDiscipline rules setup jobs tidy) pid
      (Continue (fun _ => ∅) (fun snapshot world => ∃ entry ∈ world.history,
          snapshot ∈ entry.call.snapshots entry.answer) (WorkerEnds tidy (α := β)))
      (ask .beginClaim) ∅ fun _ => True := by
  have keeps : ∀ (env : Env) (world : World), Exclusive setup jobs world →
      rules.mayCall pid .beginClaim env world →
        Keeps (sendingDiscipline rules setup jobs tidy) pid ∅ world ∅
          (world.execute pid .beginClaim env).2 := by
    intro env world exclusive legal
    have proper : Proper setup (jobs pid) pid world.db world.history .beginClaim := trivial
    exact keeps_quiet rules tidy exclusive proper (watched.timely pid _ env world legal) trivial ∅
      (fun _ member => absurd member (Set.notMem_empty _)) (Or.inl rfl)
  refine safe_perform (sendingDiscipline rules setup jobs tidy) pid .beginClaim _ _ _ _
    (fun _ _ _ _ _ => rfl) ?_ ?_
  · intro (env : Env) (world : World) snapshot exclusive _ legal answer
    refine ⟨∅, keeps env world exclusive legal, stable_and _ pid _ _ _ (stable_const _ pid _ _) ?_,
      rfl, _, List.mem_cons_self, ?_⟩
    · rintro mover s t _ ⟨entry, member, taken⟩ _ _ grows _
      obtain ⟨latest, _, later⟩ := grows.entry
      exact ⟨entry, later ▸ List.mem_cons_of_mem _ member, taken⟩
    · have taken : (runCall env .beginClaim world.db).1 = .ok snapshot := answer
      change snapshot ∈ Call.snapshots .beginClaim (runCall env .beginClaim world.db).1
      rw [taken]
      exact List.mem_singleton_self snapshot
  · intro (env : Env) (world : World) failure exclusive _ legal _
    exact ⟨∅, keeps env world exclusive legal, stable_const _ pid _ _, fun _ => rfl, by simp⟩

theorem safe_lockAndStart (limit : Nat) (snapshot : ClaimSnapshot) {β : Type} :
    Safe (sendingDiscipline rules setup jobs tidy) pid
      (Continue (fun claimed => owns claimed.zipIdx) (fun claimed => Remaining claimed.zipIdx)
        (WorkerEnds tidy (α := β)))
      (ask (.lockAndStart limit snapshot)) ∅ fun world => ∃ entry ∈ world.history,
        snapshot ∈ entry.call.snapshots entry.answer := by
  refine safe_perform (sendingDiscipline rules setup jobs tidy) pid (.lockAndStart limit snapshot)
    _ _ _ _ (fun _ _ _ _ _ => rfl) ?_ ?_
  · intro (env : Env) (world : World) claimed exclusive began legal answer
    have agrees := exclusive.agrees
    have timely := watched.timely pid _ env world legal
    have answered : (runCall env (.lockAndStart limit snapshot) world.db).1 = .ok claimed := answer
    rcases lockAndStart_cases env limit snapshot world.db agrees.ledger.distinct
        agrees.ledger.readable (agrees.snapshots snapshot began) with
      failed | ⟨others, after, ended, batch⟩
    · simp [failed] at answered
    · obtain rfl : others = claimed := by simpa [ended] using answered
      have tables : (runCall env (.lockAndStart limit snapshot) world.db).2 = after := by rw [ended]
      subst tables
      have apart : (others.map (·.id)).Nodup := batch.ids ▸
        lockClaimable_distinct _ _ _ _ _ (agrees.snapshots snapshot began)
      refine ⟨owns others.zipIdx, ?_, stable_and _ pid _ _ _ (stable_const _ pid _ _)
        ((remaining_firm _).stable rules setup jobs tidy pid _ _), rfl, ?_⟩
      · rw [owns_zipIdx]
        exact keeps_claim rules tidy exclusive limit snapshot began timely dispatching _ others batch
      · exact remaining_claimed exclusive limit snapshot began _ others answered apart batch
  · intro (env : Env) (world : World) failure exclusive began legal answer
    have proper : Proper setup (jobs pid) pid world.db world.history (.lockAndStart limit snapshot) :=
      began
    have unchanged : (runCall env (.lockAndStart limit snapshot) world.db).2 = world.db :=
      transaction_error _ _ _ _ failure answer
    refine ⟨∅, keeps_error rules tidy exclusive proper (watched.timely pid _ env world legal) rfl ∅
      (fun _ member => absurd member (Set.notMem_empty _)) (Or.inl rfl) unchanged,
      stable_const _ pid _ _, fun _ => rfl, by simp⟩

theorem safe_processBatch (fresh : Supply) (batchSize : Nat) :
    Safe (sendingDiscipline rules setup jobs tidy) pid (WorkerEnds tidy)
      (Dispatch.processBatch setup fresh batchSize) ∅ fun _ => True := by
  have claim : Safe (sendingDiscipline rules setup jobs tidy) pid
      (Continue (fun claimed => owns claimed.zipIdx) (fun claimed => Remaining claimed.zipIdx)
        (WorkerEnds tidy (α := Nat))) (Dispatch.claimNext batchSize) ∅ fun _ => True :=
    safe_then _ pid _ _ _ _ _ (fun _ => ∅) _
      (safe_beginClaim watched (β := Nat)) fun snapshot =>
        safe_lockAndStart watched dispatching batchSize snapshot (β := Nat)
  refine safe_then _ pid _ _ _ _ _ _ _ claim fun claimed => ?_
  refine safe_then _ pid _ _ _ _ _ (fun _ => ∅) (fun _ _ => True) ?_
    fun _ _ _ _ => (⟨fun _ => rfl, by simp⟩ : (tidy → _ = _) ∧ _)
  refine safe_forEach (sendingDiscipline rules setup jobs tidy) pid _ _ owns Remaining
    claimed.zipIdx (fun _ _ _ => ⟨?_, trivial⟩) fun head tail => ?_
  · ext id
    simp [owns]
  · exact safe_dispatchOne watched dispatching head tail (fresh.part head.2) (β := Nat)

end Dispatch

end SafeCameroon
