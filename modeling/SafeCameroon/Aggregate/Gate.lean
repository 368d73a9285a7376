import SafeCameroon.Aggregate.Tiers

namespace SafeCameroon

open Table DeliveryLife

/-- How the deliveries of the table stand in their fan-outs: one for each key, each where the
preference puts it, and none without those of the lower tiers. -/
structure Tiered (sha256 : String → Bytes) (keys : Set String)
    (preferenceOf : AlertId → ConsumerId → Option DeliveryPreference) (rows : List DeliveryRow) :
    Prop where
  unique : ∀ first ∈ rows, ∀ second ∈ rows,
    first.idempotencyKeyHash = second.idempotencyKeyHash → first.id = second.id
  offered : ∀ row ∈ rows, row.place.Offered preferenceOf
  keyed : ∀ row ∈ rows, row.place.key ∈ keys ∧ row.idempotencyKeyHash = sha256 row.place.key
  closed : ∀ row ∈ rows, ∀ lower : Place, lower.Offered preferenceOf → row.place.Below lower →
    ∃ other ∈ rows, other.place = lower

/-- A delivery is attempted only after every lower tier has failed for good. -/
def Gate (rows : List DeliveryRow) : Prop :=
  ∀ row ∈ rows, 0 < row.attemptCount → ∀ lower ∈ rows, row.place.Below lower.place →
    lower.status = .failedPermanently

section Gate

variable {sha256 : String → Bytes} {keys : Set String}
  {preferenceOf : AlertId → ConsumerId → Option DeliveryPreference} {db after : Db}

theorem Tiered.place_id {rows : List DeliveryRow} (tiered : Tiered sha256 keys preferenceOf rows)
    (first second : DeliveryRow) (member : first ∈ rows) (other : second ∈ rows)
    (same : first.place = second.place) : first.id = second.id := by
  apply tiered.unique first member second other
  rw [(tiered.keyed first member).2, (tiered.keyed second other).2, same]

theorem tiered_continues (tiered : Tiered sha256 keys preferenceOf db.deliveries)
    (continues : Continues (fun _ => False) db after) :
    Tiered sha256 keys preferenceOf after.deliveries := by
  have origin : ∀ later ∈ after.deliveries, ∃ row ∈ db.deliveries, Follows row later := by
    intro later member
    exact (continues.origin later member).resolve_right id
  constructor
  · intro first member second other same
    obtain ⟨earlier, inTable, follows⟩ := origin first member
    obtain ⟨otherEarlier, otherInTable, otherFollows⟩ := origin second other
    rw [follows.hash, otherFollows.hash] at same
    rw [follows.id, otherFollows.id]
    exact tiered.unique earlier inTable otherEarlier otherInTable same
  · intro later member
    obtain ⟨row, inTable, follows⟩ := origin later member
    rw [follows.place]
    exact tiered.offered row inTable
  · intro later member
    obtain ⟨row, inTable, follows⟩ := origin later member
    rw [follows.place, follows.hash]
    exact tiered.keyed row inTable
  · intro later member lower offered below
    obtain ⟨row, inTable, follows⟩ := origin later member
    rw [follows.place] at below
    obtain ⟨other, inRows, place⟩ := tiered.closed row inTable lower offered below
    obtain ⟨otherLater, inAfter, otherFollows⟩ := continues.kept other inRows
    exact ⟨otherLater, inAfter, otherFollows.place.trans place⟩

structure Joins (sha256 : String → Bytes) (keys : Set String)
    (preferenceOf : AlertId → ConsumerId → Option DeliveryPreference) (db : Db)
    (item : PlannedDelivery) : Prop where
  offered : item.place.Offered preferenceOf
  key : item.place.key ∈ keys
  hash : item.idempotencyKeyHash = sha256 item.place.key
  lower : ∀ lower : Place, lower.Offered preferenceOf → item.place.Below lower →
    ∃ other ∈ db.deliveries, other.place = lower

variable {now : Timestamp} {item : PlannedDelivery}

theorem tiered_insert (tiered : Tiered sha256 keys preferenceOf db.deliveries)
    (inserted : Inserted now item db after) (joins : Joins sha256 keys preferenceOf db item) :
    Tiered sha256 keys preferenceOf after.deliveries := by
  have fresh : ∀ row ∈ db.deliveries, row.idempotencyKeyHash ≠ item.idempotencyKeyHash := by
    intro row member same
    apply inserted.newKey
    rw [← same]
    exact List.mem_map_of_mem member
  constructor
  · intro first member second other same
    rcases (inserted.rows first).mp member with old | rfl
    · rcases (inserted.rows second).mp other with otherOld | rfl
      · exact tiered.unique first old second otherOld same
      · exact absurd same (fresh first old)
    · rcases (inserted.rows second).mp other with otherOld | rfl
      · exact absurd same.symm (fresh second otherOld)
      · rfl
  · intro row member
    rcases (inserted.rows row).mp member with old | rfl
    · exact tiered.offered row old
    · exact joins.offered
  · intro row member
    rcases (inserted.rows row).mp member with old | rfl
    · exact tiered.keyed row old
    · exact ⟨joins.key, joins.hash⟩
  · intro row member lower offered below
    have found : ∃ other ∈ db.deliveries, other.place = lower := by
      rcases (inserted.rows row).mp member with old | rfl
      · exact tiered.closed row old lower offered below
      · exact joins.lower lower offered below
    obtain ⟨other, inTable, place⟩ := found
    exact ⟨other, (inserted.rows other).mpr (Or.inl inTable), place⟩

theorem gate_insert (tiered : Tiered sha256 keys preferenceOf db.deliveries)
    (gate : Gate db.deliveries) (inserted : Inserted now item db after)
    (joins : Joins sha256 keys preferenceOf db item) (fresh : item.Fresh) :
    Gate after.deliveries := by
  intro row member attempted lower other below
  rcases (inserted.rows row).mp member with old | rfl
  · rcases (inserted.rows lower).mp other with otherOld | rfl
    · exact gate row old attempted lower otherOld below
    · obtain ⟨stored, inTable, place⟩ := tiered.closed row old item.place joins.offered below
      have taken : item.idempotencyKeyHash = stored.idempotencyKeyHash := by
        rw [joins.hash, (tiered.keyed stored inTable).2, place]
      have used : item.idempotencyKeyHash ∈ db.deliveries.map (·.idempotencyKeyHash) := by
        rw [taken]
        exact List.mem_map_of_mem inTable
      exact absurd used inserted.newKey
  · have untried : (plannedRow now item).attemptCount = 0 := fresh.attemptCount
    omega

theorem gate_continues (gate : Gate db.deliveries) (continues : Continues (fun _ => False) db after)
    (opened : ∀ row ∈ db.deliveries, ∀ later ∈ after.deliveries, Follows row later →
      row.attemptCount = 0 → 0 < later.attemptCount → ∀ lower ∈ db.deliveries,
        row.place.Below lower.place → lower.status = .failedPermanently) :
    Gate after.deliveries := by
  intro later member attempted otherLater other below
  obtain ⟨row, inTable, follows⟩ := (continues.origin later member).resolve_right id
  obtain ⟨lower, lowerInTable, lowerFollows⟩ := (continues.origin otherLater other).resolve_right id
  rw [follows.place, lowerFollows.place] at below
  have failed : lower.status = .failedPermanently := by
    by_cases started : row.attemptCount = 0
    · exact opened row inTable later member follows started attempted lower lowerInTable below
    · exact gate row inTable (Nat.pos_of_ne_zero started) lower lowerInTable below
  rw [lowerFollows.terminal (Or.inr failed), failed]

/-- What an earlier snapshot shows of the table as it is now. -/
structure Seen (sha256 : String → Bytes) (keys : Set String)
    (preferenceOf : AlertId → ConsumerId → Option DeliveryPreference) (db : Db)
    (snapshot : ClaimSnapshot) : Prop where
  tiered : Tiered sha256 keys preferenceOf snapshot.rows
  followed : ∀ old ∈ snapshot.rows, ∃ row ∈ db.deliveries, Follows old row

theorem opened_by_claim (distinct : (db.deliveries.map (·.id)).Nodup)
    (tiered : Tiered sha256 keys preferenceOf db.deliveries) (snapshot : ClaimSnapshot)
    (seen : Seen sha256 keys preferenceOf db snapshot) (row : DeliveryRow)
    (member : row ∈ db.deliveries) (claimable : Claimable snapshot row)
    (candidate : ∃ old ∈ snapshot.rows, old.id = row.id) (lower : DeliveryRow)
    (other : lower ∈ db.deliveries) (below : row.place.Below lower.place) :
    lower.status = .failedPermanently := by
  obtain ⟨old, inSnapshot, same⟩ := candidate
  obtain ⟨current, inTable, follows⟩ := seen.followed old inSnapshot
  have identical : current = row := by
    apply eq_of_key (·.id) _ distinct current row inTable member
    exact follows.id.trans same
  have oldBelow : old.place.Below lower.place := by
    rw [← follows.place, identical]
    exact below
  obtain ⟨oldLower, lowerSeen, place⟩ :=
    seen.tiered.closed old inSnapshot lower.place (tiered.offered lower other) oldBelow
  obtain ⟨currentLower, lowerInTable, lowerFollows⟩ := seen.followed oldLower lowerSeen
  have sameLower : currentLower = lower := by
    apply eq_of_key (·.id) _ distinct currentLower lower lowerInTable other
    apply tiered.place_id currentLower lower lowerInTable other
    rw [lowerFollows.place, place]
  have failed : oldLower.status = .failedPermanently := by
    rcases claimable.gate with bottom | gate
    · have tier : lower.tier < row.tier := below.tier
      omega
    · have consumer : oldLower.consumerId = row.consumerId := by
        have standing := congrArg Place.consumerId place
        exact standing.trans below.consumerId
      have alertId : oldLower.alertId = row.alertId := by
        have standing := congrArg Place.alertId place
        exact standing.trans below.alertId
      have tier : oldLower.tier < row.tier := by
        have standing : oldLower.tier = lower.tier := congrArg Place.tier place
        have smaller : lower.tier < row.tier := below.tier
        omega
      exact gate oldLower lowerSeen alertId consumer tier
  rw [← sameLower, lowerFollows.terminal (Or.inr failed), failed]

end Gate

end SafeCameroon
