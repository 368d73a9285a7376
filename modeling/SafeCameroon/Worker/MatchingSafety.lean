import SafeCameroon.Delivery.Sending

namespace SafeCameroon

open Table Process Ownership

theorem planningOf_other (pid : Nat) (entry : Entry) (older : List Entry)
    (differs : entry.pid ≠ pid) : planningOf pid (entry :: older) = planningOf pid older := by
  obtain ⟨other, call, answer, time, before⟩ := entry
  cases call with
  | findAlert id => simp only [planningOf, if_neg differs]
  | _ => rfl

theorem planning_stable {rules : Rules deliveryMachine} {setup : WorkerSetup} {jobs : Nat → Job}
    {tidy : Prop} {pid : Nat} (alertId : AlertId) :
    Stable (sendingDiscipline rules setup jobs tidy) pid ∅
      fun world => planningOf pid world.history = some alertId := by
  intro mover s t differs known _ _ grows _
  obtain ⟨entry, maker, later⟩ := Grows.entry grows
  rw [later, planningOf_other pid entry s.history (maker ▸ differs)]
  exact known

theorem Preferred.cons {history : List Entry} {pid : Nat} {alertId : AlertId}
    {consumerId : ConsumerId} {preference : DeliveryPreference}
    (preferred : Preferred history pid alertId consumerId preference) (entry : Entry) :
    Preferred (entry :: history) pid alertId consumerId preference := by
  obtain ⟨recent, time, before, older, split, planning⟩ := preferred
  exact ⟨entry :: recent, time, before, older, by rw [split]; rfl, planning⟩

theorem Persisted.cons {history : List Entry} {item : PlannedDelivery}
    (persisted : Persisted history item) (entry : Entry) : Persisted (entry :: history) item := by
  obtain ⟨pid, time, before, member⟩ := persisted
  exact ⟨pid, time, before, List.mem_cons_of_mem _ member⟩

def Loaded (pid : Nat) (alertId : AlertId) (preferences : List (ConsumerId × DeliveryPreference))
    (world : World) : Prop :=
  ∀ entry ∈ preferences, Preferred world.history pid alertId entry.1 entry.2

/-- The items of a plan that are still to be persisted. -/
structure Planning (setup : WorkerSetup) (pid : Nat) (remaining : List PlannedDelivery)
    (world : World) : Prop where
  plan : ∃ fresh alert matched preferences requestId earlier,
    planDeliveries setup.sha256 fresh alert matched preferences RetryPolicy.standard .automated
        requestId = earlier ++ remaining ∧
      (∀ item ∈ earlier, Persisted world.history item) ∧
      ∀ consumerId preference, preferences consumerId = some preference →
        Preferred world.history pid alert.id consumerId preference

theorem planning_grows {setup : WorkerSetup} {pid mover : Nat} {remaining : List PlannedDelivery}
    {s t : World} (planning : Planning setup pid remaining s) (grows : Grows mover s t) :
    Planning setup pid remaining t := by
  obtain ⟨entry, _, later⟩ := grows.entry
  obtain ⟨fresh, alert, matched, preferences, requestId, earlier, plan, persisted, preferred⟩ :=
    planning.plan
  refine ⟨fresh, alert, matched, preferences, requestId, earlier, plan, ?_, ?_⟩
  · intro item member
    rw [later]
    exact (persisted item member).cons entry
  · intro consumerId preference found
    rw [later]
    exact (preferred consumerId preference found).cons entry

theorem mem_of_lookup {preferences : List (ConsumerId × DeliveryPreference)}
    {consumerId : ConsumerId} {preference : DeliveryPreference}
    (found : preferences.lookup consumerId = some preference) :
    (consumerId, preference) ∈ preferences := by
  obtain ⟨earlier, later, split, _⟩ := List.lookup_eq_some_iff.mp found
  rw [split]
  exact List.mem_append_right _ List.mem_cons_self

section Matching

variable {rules : Rules deliveryMachine} {setup : WorkerSetup} {jobs : Nat → Job} {tidy : Prop}
  (watched : Watched rules jobs tidy) {pid : Nat}
include watched

theorem safe_findAlert (alertId : AlertId) {β : Type} :
    Safe (sendingDiscipline rules setup jobs tidy) pid
      (Continue (fun _ => ∅) (fun found world => planningOf pid world.history = some alertId ∧
        ∀ alert, found = some alert → alert.id = alertId) (Outside (α := β)))
      (ask (.findAlert alertId)) ∅ fun _ => True := by
  refine safe_outside watched (.findAlert alertId) trivial _ _ _ (fun _ _ _ => trivial)
    (fun found => stable_and _ pid _ _ _ (planning_stable alertId) (stable_const _ pid _ _)) ?_
  intro env world found _ _ answer
  refine ⟨by simp [planningOf], ?_⟩
  rintro alert rfl
  have result := query_ok _ _ _ _ _ answer
  simp only [PostgresAlertRepository.findById] at result
  split at result
  · simp at result
  · rename_i row stored
    simp only [bind_ok, pure, Except.pure, Except.ok.injEq, Option.some.injEq] at result
    obtain ⟨fields, _, other, read, rfl⟩ := result
    simp only [alertFromRow, bind_ok, pure, Except.pure, Except.ok.injEq] at read
    obtain ⟨_, _, _, _, _, _, _, _, _, _, _, _, rfl⟩ := read
    exact (lookup_some _ _ _ _ stored).2

theorem safe_loadPreferences (alertId : AlertId) (matched : List ConsumerMatch) {β : Type} :
    Safe (sendingDiscipline rules setup jobs tidy) pid
      (Continue (fun _ => ∅) (fun preferences world =>
        planningOf pid world.history = some alertId ∧ Loaded pid alertId preferences world)
        (Outside (α := β)))
      (SubscriptionMatching.loadPreferences matched) ∅
      fun world => planningOf pid world.history = some alertId := by
  induction matched with
  | nil => exact fun world _ planning => ⟨rfl, planning, fun _ member => absurd member (by simp)⟩
  | cons head tail ih =>
      have reads : Safe (sendingDiscipline rules setup jobs tidy) pid
          (Continue (fun _ => ∅) (fun preference world =>
            planningOf pid world.history = some alertId ∧ ∀ found, preference = some found →
              Preferred world.history pid alertId head.consumerId found) (Outside (α := β)))
          (ask (.findPreference head.consumerId)) ∅
          fun world => planningOf pid world.history = some alertId := by
        refine safe_outside watched (.findPreference head.consumerId) trivial _ _ _
          (fun _ _ _ => trivial) ?_ ?_
        · refine fun preference => stable_and _ pid _ _ _ (planning_stable alertId) ?_
          intro mover s t _ known _ _ grows _ found same
          obtain ⟨entry, _, later⟩ := Grows.entry grows
          rw [later]
          exact (known found same).cons entry
        · intro env world preference _ planning answer
          refine ⟨by simpa [planningOf] using planning, ?_⟩
          rintro found rfl
          refine ⟨[], env.now, world.db, world.history, ?_, planning⟩
          rw [World.execute_history, answer]
          rfl
      refine safe_then _ pid _ _ _ _ _ _ _ reads fun preference => ?_
      have later := safe_frame (sendingDiscipline rules setup jobs tidy) pid _ _ _ _
        (fun world => ∀ found, preference = some found →
          Preferred world.history pid alertId head.consumerId found)
        (fun mover s t known _ _ grows found same => by
          obtain ⟨entry, _, later⟩ := Grows.entry grows
          rw [later]
          exact (known found same).cons entry) ih
      refine safe_then _ pid _ _ _ _ _ (fun _ => ∅) (fun preferences world =>
        (planningOf pid world.history = some alertId ∧ Loaded pid alertId preferences world) ∧
          ∀ found, preference = some found →
            Preferred world.history pid alertId head.consumerId found) ?_ fun preferences => ?_
      · refine safe_post _ pid _ _ ?_ _ _ _ later
        rintro kept (failure | preferences) world _ ⟨first, carried⟩
        · exact first
        · exact ⟨first.1, first.2, carried⟩
      · cases preference with
        | none => exact fun world _ known => ⟨rfl, known.1⟩
        | some found =>
            refine fun world _ known => ⟨rfl, known.1.1, fun entry member => ?_⟩
            rcases List.mem_cons.mp member with rfl | inRest
            · exact known.2 found rfl
            · exact known.1.2 entry inRest

theorem safe_createPlanned (planned : List PlannedDelivery) {β : Type} :
    Safe (sendingDiscipline rules setup jobs tidy) pid
      (Continue (fun _ => ∅) (fun _ _ => True) (Outside (α := β)))
      (SubscriptionMatching.createPlanned planned) ∅ (Planning setup pid planned) := by
  refine safe_forEach (sendingDiscipline rules setup jobs tidy) pid _ _ (fun _ => ∅)
    (Planning setup pid) planned (fun _ _ _ => ⟨rfl, trivial⟩) fun head tail => ?_
  refine safe_outside (β := β) watched (.createPlannedItem head) trivial _ _ _ ?_ ?_ ?_
  · intro world planning _
    obtain ⟨fresh, alert, matched, preferences, requestId, earlier, plan, persisted, preferred⟩ :=
      planning.plan
    exact ⟨fresh, alert, matched, preferences, requestId, earlier, tail, plan, persisted, preferred⟩
  · exact fun _ mover s t _ known _ _ grows _ => planning_grows known grows
  · intro env world _ _ planning answer
    obtain ⟨fresh, alert, matched, preferences, requestId, earlier, plan, persisted, preferred⟩ :=
      planning.plan
    refine ⟨fresh, alert, matched, preferences, requestId, earlier ++ [head], by simpa using plan,
      ?_, fun consumerId preference found => ?_⟩
    · intro item member
      rcases List.mem_append.mp member with old | new
      · exact (persisted item old).cons _
      · obtain rfl := List.mem_singleton.mp new
        refine ⟨pid, env.now, world.db, ?_⟩
        rw [World.execute_history, answer]
        exact List.mem_cons_self
    · exact (preferred consumerId preference found).cons _

theorem safe_matchAndPlan (fresh : Supply) (alertId : AlertId) {β : Type} :
    Safe (sendingDiscipline rules setup jobs tidy) pid
      (Continue (fun _ => ∅) (fun _ _ => True) (Outside (α := β)))
      (SubscriptionMatching.matchAndPlan setup fresh alertId) ∅ fun _ => True := by
  refine safe_then _ pid _ _ _ _ _ _ _ (safe_findAlert watched alertId (β := β)) fun found => ?_
  cases found with
  | none => exact fun world _ _ => ⟨rfl, trivial⟩
  | some alert =>
      by_cases same : alert.id = alertId
      · have lists : Safe (sendingDiscipline rules setup jobs tidy) pid
            (Continue (fun _ => ∅) (fun _ world => planningOf pid world.history = some alertId)
              (Outside (α := β))) (ask .listSubscriptions) ∅ fun world : World =>
            planningOf pid world.history = some alertId ∧
              ∀ other, some alert = some other → other.id = alertId :=
          safe_outside watched .listSubscriptions trivial _ _ _ (fun _ _ _ => trivial)
            (fun _ => planning_stable alertId) fun _ _ _ _ known _ => by simpa [planningOf] using known.1
        refine safe_then _ pid _ _ _ _ _ _ _ lists fun subscriptions => ?_
        dsimp only
        split
        · exact fun world _ _ => ⟨rfl, trivial⟩
        · refine safe_then _ pid _ _ _ _ _ _ _ (safe_loadPreferences watched alertId _ (β := β))
            fun preferences => ?_
          refine safe_weaken _ pid _ _ _ _ _ ?_ (safe_createPlanned watched _ (β := β))
          rintro world _ ⟨_, loaded⟩
          refine ⟨_, _, _, _, _, [], rfl, fun _ member => absurd member List.not_mem_nil, ?_⟩
          intro consumerId preference found
          rw [same]
          exact loaded _ (mem_of_lookup found)
      · exact safe_vacuous _ pid _ _ _ _ fun world _ known => same (known.2 alert rfl)

theorem safe_matching (fresh : Supply) (batchSize : Nat) :
    Safe (sendingDiscipline rules setup jobs tidy) pid Outside
      (SubscriptionMatching.processBatch setup fresh batchSize) ∅ fun _ => True := by
  have claims : Safe (sendingDiscipline rules setup jobs tidy) pid
      (Continue (fun _ => ∅) (fun _ _ => True) (Outside (α := Nat)))
      (ask (.claimUnpublished SubscriptionMatching.alertCreatedEventType batchSize)) ∅
      fun _ => True :=
    safe_outside watched (.claimUnpublished SubscriptionMatching.alertCreatedEventType batchSize)
      trivial _ _ _ (fun _ _ _ => trivial) (fun _ => stable_true _ pid _) fun _ _ _ _ _ _ => trivial
  refine safe_then _ pid _ _ _ _ _ _ _ claims fun events => ?_
  refine safe_then _ pid _ _ _ _ _ (fun _ => ∅) (fun _ _ => True) ?_ fun _ _ _ _ => rfl
  refine safe_forEach (sendingDiscipline rules setup jobs tidy) pid _ _ (fun _ => ∅)
    (fun _ _ => True) events.zipIdx (fun _ _ _ => ⟨rfl, trivial⟩) fun head tail => ?_
  refine safe_then _ pid _ _ _ _ _ _ _
    (safe_matchAndPlan watched (fresh.part head.2) ⟨head.1.aggregateId⟩ (β := Nat)) fun _ => ?_
  exact safe_outside (β := Nat) watched (.markPublished head.1.id) trivial _ _ _
    (fun _ _ _ => trivial) (fun _ => stable_true _ pid _) fun _ _ _ _ _ _ => trivial

end Matching

end SafeCameroon
