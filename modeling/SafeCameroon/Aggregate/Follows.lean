import SafeCameroon.Aggregate.Batch

namespace SafeCameroon

open Table Optimistic DeliveryLife

namespace DeliveryLife

abbrev Leads (maxAttempts : Nat) : State → State → Prop :=
  Relation.ReflTransGen fun before after => ∃ entry, Step maxAttempts before entry after

theorem leads_attemptCount (maxAttempts : Nat) (before after : State)
    (leads : Leads maxAttempts before after) : before.attemptCount ≤ after.attemptCount := by
  induction leads with
  | refl => exact Nat.le_refl _
  | tail _ last ih =>
      obtain ⟨entry, step⟩ := last
      refine ih.trans ?_
      cases step with
      | start ready => exact Nat.le_succ _
      | success inFlight => exact Nat.le_refl _
      | retry inFlight => exact Nat.le_refl _
      | failure inFlight => exact Nat.le_refl _
      | delivered sent => exact Nat.le_refl _

theorem leads_terminal (maxAttempts : Nat) (before after : State)
    (leads : Leads maxAttempts before after)
    (terminal : before.status = .delivered ∨ before.status = .failedPermanently) :
    after = before := by
  induction leads with
  | refl => rfl
  | tail _ last ih =>
      obtain ⟨entry, step⟩ := last
      have open_ := step_nonterminal maxAttempts _ entry _ step
      rw [ih] at open_
      rcases terminal with status | status
      · exact absurd status open_.1
      · exact absurd status open_.2

theorem leads_sent (maxAttempts : Nat) (before after : State)
    (leads : Leads maxAttempts before after)
    (sent : before.status = .sent ∨ before.status = .delivered) :
    after.status = .sent ∨ after.status = .delivered := by
  induction leads with
  | refl => exact sent
  | tail _ last ih =>
      obtain ⟨entry, step⟩ := last
      cases step with
      | start ready => rcases ready with status | status <;> simp [status] at ih
      | success inFlight => exact Or.inl rfl
      | retry inFlight => simp [inFlight] at ih
      | failure inFlight => simp [inFlight] at ih
      | delivered isSent => exact Or.inr rfl

end DeliveryLife

/-- The row at a later time: the columns of its planning are fixed and its life went on. -/
structure Follows (row after : DeliveryRow) : Prop where
  fixed : after = { row with
    status := after.status, attemptCount := after.attemptCount
    aggregateVersion := after.aggregateVersion, updatedAt := after.updatedAt
    nextAttemptAt := after.nextAttemptAt }
  version : row.aggregateVersion ≤ after.aggregateVersion
  leads : Leads row.maxAttempts row.life after.life

namespace Follows

theorem refl (row : DeliveryRow) : Follows row row := ⟨rfl, Nat.le_refl _, .refl⟩

theorem id {row after : DeliveryRow} (follows : Follows row after) : after.id = row.id := by
  rw [follows.fixed]

theorem maxAttempts {row after : DeliveryRow} (follows : Follows row after) :
    after.maxAttempts = row.maxAttempts := by
  rw [follows.fixed]

theorem trans {row middle after : DeliveryRow} (first : Follows row middle)
    (second : Follows middle after) : Follows row after := by
  refine ⟨?_, first.version.trans second.version, ?_⟩
  · have last := second.fixed
    rw [first.fixed] at last
    exact last
  · exact first.leads.trans (first.maxAttempts ▸ second.leads)

theorem attemptCount {row after : DeliveryRow} (follows : Follows row after) :
    row.attemptCount ≤ after.attemptCount := leads_attemptCount _ _ _ follows.leads

theorem terminal {row after : DeliveryRow} (follows : Follows row after)
    (status : row.status = .delivered ∨ row.status = .failedPermanently) :
    after.status = row.status :=
  congrArg State.status (leads_terminal _ _ _ follows.leads status)

theorem sent {row after : DeliveryRow} (follows : Follows row after)
    (status : row.status = .sent ∨ row.status = .delivered) :
    after.status = .sent ∨ after.status = .delivered := leads_sent _ _ _ follows.leads status

end Follows

structure Continues (planned : DeliveryRow → Prop) (db after : Db) : Prop where
  kept : ∀ row ∈ db.deliveries, ∃ later ∈ after.deliveries, Follows row later
  origin : ∀ later ∈ after.deliveries,
    (∃ row ∈ db.deliveries, Follows row later) ∨ planned later

theorem Continues.same (planned : DeliveryRow → Prop) (db after : Db)
    (same : after.deliveries = db.deliveries) : Continues planned db after where
  kept := fun row member => ⟨row, same ▸ member, .refl row⟩
  origin := fun row member => Or.inl ⟨row, same ▸ member, .refl row⟩

theorem Inserted.continues {now : Timestamp} {item : PlannedDelivery} {db after : Db}
    (inserted : Inserted now item db after) : Continues (· = plannedRow now item) db after where
  kept := fun row member => ⟨row, (inserted.rows row).mpr (Or.inl member), .refl row⟩
  origin := fun row member => ((inserted.rows row).mp member).imp
    (fun old => ⟨row, old, .refl row⟩) fun added => added

theorem follows_advanced (now : Timestamp) (row : DeliveryRow) (before delivery : Delivery)
    (event : DeliveryEvent) (attempt : Option DeliveryAttempt)
    (moves : Delivery.Moves before delivery event attempt)
    (maxAttempts : row.maxAttempts = before.retryPolicy.maxAttempts) (life : row.life = before.life)
    (version : row.aggregateVersion = before.version) :
    Follows row (advancedRow now delivery row) where
  fixed := rfl
  version := by
    rw [advancedRow_version, moves.version, version]
    exact Nat.le_succ _
  leads := by
    rw [maxAttempts, life, advancedRow_life]
    exact .single ⟨_, moves.step⟩

theorem Advanced.continues {now : Timestamp} {before delivery : Delivery} {event : DeliveryEvent}
    {attempt : Option DeliveryAttempt} {db after : Db}
    (advanced : Advanced now delivery event attempt db after)
    (distinct : (db.deliveries.map (·.id)).Nodup) (stale : Stale db before)
    (moves : Delivery.Moves before delivery event attempt) :
    Continues (fun _ => False) db after := by
  have moved : ∀ row ∈ db.deliveries, row.id = delivery.id →
      row.aggregateVersion + 1 = delivery.version → Follows row (advancedRow now delivery row) := by
    intro row member same older
    have current := stale.current db before row distinct member (same.trans moves.id)
    have version : row.aggregateVersion = before.version := by
      have next := moves.version
      omega
    exact follows_advanced now row before delivery event attempt moves current.1.maxAttempts
      (current.2.2 version.symm).symm version
  refine ⟨fun row member => ?_, fun later member => Or.inl ?_⟩
  · by_cases same : row.id = delivery.id
    · obtain ⟨current, inTable, equal, older⟩ := advanced.matched
      obtain rfl := eq_of_key (·.id) _ distinct row current member inTable (same.trans equal.symm)
      exact ⟨_, (advanced.rows distinct _).mpr (Or.inr ⟨row, member, same, older, rfl⟩),
        moved row member same older⟩
    · exact ⟨row, (advanced.rows distinct row).mpr (Or.inl ⟨member, same⟩), .refl row⟩
  · rcases (advanced.rows distinct later).mp member with ⟨old, _⟩ | ⟨row, old, same, older, rfl⟩
    · exact ⟨later, old, .refl later⟩
    · exact ⟨row, old, moved row old same older⟩

theorem Advanced.attemptCount {now : Timestamp} {before delivery : Delivery} {event : DeliveryEvent}
    {attempt : Option DeliveryAttempt} {db after : Db}
    (advanced : Advanced now delivery event attempt db after)
    (distinct : (db.deliveries.map (·.id)).Nodup) (stale : Stale db before)
    (moves : Delivery.Moves before delivery event attempt)
    (other : event.eventType ≠ .deliveryStarted) (row later : DeliveryRow)
    (member : row ∈ db.deliveries) (inAfter : later ∈ after.deliveries) (follows : Follows row later) :
    later.attemptCount = row.attemptCount := by
  rcases (advanced.rows distinct later).mp inAfter with ⟨old, _⟩ | ⟨earlier, old, same, older, rfl⟩
  · have identical := eq_of_key (·.id) _ distinct later row old member follows.id
    rw [identical]
  · have identical : earlier = row :=
      eq_of_key (·.id) _ distinct earlier row old member follows.id
    have current := stale.current db before earlier distinct old (same.trans moves.id)
    have version : before.version = earlier.aggregateVersion := by
      have next := moves.version
      omega
    have life : before.life = earlier.life := current.2.2 version
    have count := step_attemptCount _ _ _ _ moves.step other
    rw [life, identical] at count
    exact count

theorem StartOf.follows {row : DeliveryRow} {delivery : Delivery} (now : Timestamp)
    (start : StartOf row delivery) : Follows row (advancedRow now delivery row) where
  fixed := rfl
  version := by
    rw [advancedRow_version, start.version]
    exact Nat.le_succ _
  leads := by
    have life : (advancedRow now delivery row).life =
        { status := .sending, attemptCount := row.life.attemptCount + 1 } := by
      simp [advancedRow, DeliveryRow.life, start.status, start.attemptCount]
    rw [life]
    exact .single ⟨_, .start start.ready⟩

theorem Batch.continues {now : Timestamp} {rows : List DeliveryRow} {claimed : List Delivery}
    {db after : Db} (batch : Batch now rows claimed db after)
    (distinct : (db.deliveries.map (·.id)).Nodup) : Continues (fun _ => False) db after := by
  refine ⟨fun row member => ?_, fun later member => Or.inl ?_⟩
  · by_cases touched : row.id ∈ rows.map (·.id)
    · rw [← batch.ids] at touched
      obtain ⟨delivery, inClaimed, same⟩ := List.mem_map.mp touched
      obtain ⟨other, inZip⟩ := batch.row_of_claimed delivery inClaimed
      have start := batch.start _ inZip
      obtain rfl := eq_of_key (·.id) _ distinct other row (batch.row_mem _ inZip) member
        (start.same.id.trans same)
      exact ⟨_, (batch.tables _).mpr (Or.inr ⟨_, inZip, rfl⟩), start.follows now⟩
    · exact ⟨row, (batch.other row touched).mpr member, .refl row⟩
  · rcases (batch.tables later).mp member with ⟨old, _⟩ | ⟨pair, inZip, rfl⟩
    · exact ⟨later, old, .refl later⟩
    · exact ⟨pair.1, batch.row_mem pair inZip, (batch.start pair inZip).follows now⟩

end SafeCameroon
