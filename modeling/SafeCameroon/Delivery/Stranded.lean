import SafeCameroon.Delivery.Pool

namespace SafeCameroon

open Table Process Ownership

/-- Errors of the database and shutdowns meet a dispatching worker only while it claims. -/
def tidyRules (jobs : Nat → Job) : Rules deliveryMachine where
  mayCall := fun pid call env world => world.clock ≤ env.now ∧
    ((jobs pid).isDispatch → ∀ failure, (runCall env call world.db).1 = .error failure → call.isClaim)
  mayHalt := fun pid call _ => (jobs pid).isDispatch → call.isClaim

theorem tidyRules_watched (jobs : Nat → Job) : Watched (tidyRules jobs) jobs True where
  timely := fun _ _ _ _ legal => legal.1
  errors := fun _ _ _ _ _ failure dispatching legal failed => legal.2 dispatching failure failed
  drops := fun _ _ _ _ dispatching legal => legal dispatching

/-- No worker is inside a dispatch batch. -/
def AllOutside (jobs : Nat → Job) (config : Pool) : Prop :=
  ∀ pid, (jobs pid).isDispatch → (config.slots pid).running = false

/-- The delivery waits for its next attempt: a claim takes it once its backoff has elapsed and every
lower tier has failed for good. -/
structure Waits (db : Db) (row : DeliveryRow) : Prop where
  ready : row.status = .queued ∨ row.status = .retrying
  claimed : ∀ tie limit now, (∀ due ∈ row.nextAttemptAt, due ≤ now) →
    (row.tier = 0 ∨ ∀ lower ∈ db.deliveries, lower.alertId = row.alertId →
      lower.consumerId = row.consumerId → lower.tier < row.tier →
        lower.status = .failedPermanently) →
    db.deliveries.length ≤ limit →
      row ∈ lockClaimable tie [] limit { now, rows := db.deliveries } db

/-- Every delivery that is not finished waits for its next attempt. -/
def NoneStranded (db : Db) : Prop :=
  ∀ row ∈ db.deliveries, row.status ≠ .sent → row.status ≠ .delivered →
    row.status ≠ .failedPermanently → Waits db row

theorem waits_of_ready (db : Db) (distinct : (db.deliveries.map (·.id)).Nodup) (row : DeliveryRow)
    (member : row ∈ db.deliveries) (ready : row.status = .queued ∨ row.status = .retrying) :
    Waits db row := by
  constructor
  · exact ready
  · intro tie limit now due gate room
    have claimable : claimable { now, rows := db.deliveries } row = true := by
      apply claimable_intro
      exact ⟨ready, due, gate⟩
    exact lockClaimable_complete tie limit _ db distinct row member member claimable room

theorem owns_none (deployment : Deployment) (jobs : Nat → Job) (rules : Rules deliveryMachine)
    (config : Pool) (own : Nat → Set DeliveryId) (know : Nat → World → Prop)
    (assigned : Assigned (sendingDiscipline rules deployment.setup jobs True) (JobEnds jobs True)
      config own know) (pid : Nat) (outside : (config.slots pid).running = false) : own pid = ∅ := by
  have inv := assigned.inv
  have known := assigned.known pid
  cases slot : config.slots pid with
  | waiting => exact assigned.waiting pid slot
  | gone => exact assigned.gone pid slot trivial
  | active rest =>
      have safe := assigned.active pid rest slot
      cases rest with
      | done value => exact (safe config.state inv known).1 trivial
      | fail error => exact (safe config.state inv known).1 trivial
      | call op next => simp [slot, Slot.running] at outside

/-- When errors and shutdowns meet workers only while they claim, no delivery is stranded: once no
worker is inside a batch, whatever is unfinished waits for its next attempt. -/
theorem none_stranded (deployment : Deployment) (jobs : Nat → Job) (init : Db)
    (initial : init.Initial) (config : Pool)
    (reached : deployment.Reaches jobs (tidyRules jobs) init config)
    (outside : AllOutside jobs config) : NoneStranded config.state.db := by
  obtain ⟨own, know, assigned⟩ :=
    assigned_pool deployment jobs (tidyRules_watched jobs) init initial config reached
  have exclusive : Exclusive deployment.setup jobs config.state := assigned.inv
  have landed : ∀ row ∈ config.state.db.deliveries, row.status ≠ .sending := by
    intro row member sending
    obtain ⟨pid, owned⟩ := assigned.covered row.id ⟨row, member, rfl, sending⟩
    have dispatching : (jobs pid).isDispatch := assigned.entitled pid row.id owned
    have empty := owns_none deployment jobs _ config own know assigned pid (outside pid dispatching)
    rw [empty] at owned
    exact Set.notMem_empty _ owned
  intro row member unsent undelivered unfailed
  have ready : row.status = .queued ∨ row.status = .retrying := by
    cases status : row.status with
    | queued => exact Or.inl rfl
    | retrying => exact Or.inr rfl
    | sending => exact absurd status (landed row member)
    | sent => exact absurd status unsent
    | delivered => exact absurd status undelivered
    | failedPermanently => exact absurd status unfailed
  exact waits_of_ready _ exclusive.agrees.ledger.distinct row member ready

section Runs

open Scenario

def claims : Call → Bool
  | .beginClaim | .lockAndStart _ _ => true
  | _ => false

theorem sparing_tidy (config : Pool) (label : Label Env) (h : sparing claims config label = true) :
    (tidyRules jobs).legal config label := by
  refine sparing_sound (tidyRules jobs) claims ?_ config label h
  intro pid call env world timely errors
  refine ⟨timely, fun _ failure failed => ?_⟩
  have spared := errors failure failed
  cases call <;> trivial

/-- A worker whose claim fails, and another who sends the delivery. -/
theorem none_stranded_failedClaim : ∃ config : Pool, config.state.db.deliveries ≠ [] ∧
    NoneStranded config.state.db := by
  obtain ⟨config, reached, holds, waiting⟩ := play_reaches (deployment.pool jobs)
    (initially (World.initial store) : Pool) (sparing claims) sparing_tidy
    (runs 0 1 1 ++ runs 1 7 10 ++ [.start 2, .call 2 (faulty 20)] ++ runs 3 6 30)
    (fun config => !config.state.db.deliveries.isEmpty && config.idleBelow 4) (by decide +kernel)
  simp only [Bool.and_eq_true, Bool.not_eq_true', List.isEmpty_eq_false_iff] at holds
  have outside : AllOutside jobs config := fun pid _ =>
    idle_played holds.2 (by decide) waiting pid
  exact ⟨config, holds.1, none_stranded deployment jobs store store_initial config reached outside⟩

/-- A worker claims the delivery and then cannot read its alert: the delivery stays in flight with no
worker at it. -/
theorem stranded_by_error : ∃ config : Pool, deployment.Reaches jobs clockRules store config ∧
    AllOutside jobs config ∧ ¬ NoneStranded config.state.db := by
  obtain ⟨config, reached, holds, waiting⟩ := play_reaches (deployment.pool jobs)
    (initially (World.initial store) : Pool) timely timely_sound
    (runs 0 1 1 ++ runs 1 7 10 ++ runs 2 2 20 ++ [.call 2 (faulty 30)])
    (fun config => config.state.db.deliveries.any (·.status = .sending) && config.idleBelow 4)
    (by decide +kernel)
  simp only [Bool.and_eq_true, List.any_eq_true, decide_eq_true_eq] at holds
  obtain ⟨⟨row, member, sending⟩, idle⟩ := holds
  have outside : AllOutside jobs config := fun pid _ =>
    idle_played idle (by decide) waiting pid
  refine ⟨config, reached, outside, fun noneStranded => ?_⟩
  have waits := noneStranded row member (by simp [sending]) (by simp [sending]) (by simp [sending])
  rcases waits.ready with ready | ready
  · simp [ready] at sending
  · simp [ready] at sending

end Runs

end SafeCameroon
