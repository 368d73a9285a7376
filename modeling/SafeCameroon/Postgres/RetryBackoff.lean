import SafeCameroon.Postgres.Deliveries

namespace SafeCameroon

open Table

namespace RetryPolicy

section Words

/-- A shift of 64 bits, which the number of places must stay below. -/
def checkedShl (value : UInt64) (places : UInt32) : Option UInt64 :=
  if places < 64 then some (value <<< places.toUInt64) else none

/-- A product that must fit 64 bits. -/
def checkedMul (left right : UInt64) : Option UInt64 :=
  if left.toNat * right.toNat < 2 ^ 64 then some (left * right) else none

def saturatingSub (left right : UInt32) : UInt32 := if left ≤ right then 0 else left - right

/-- The wait after an attempt as the words compute it; none where an operation goes out of range. -/
def backoffWords (attemptCount : UInt32) : Option UInt64 := do
  let exponent := min (saturatingSub attemptCount 1) 6
  let multiplier ← checkedShl 1 exponent
  let seconds ← checkedMul 30 multiplier
  return min seconds (30 * 60)

end Words

section Formula

/-- The cap of the exponent changes nothing: by then the wait is longer than half an hour. -/
theorem backoffAfterAttempt_eq (attemptCount : Nat) :
    backoffAfterAttempt attemptCount = min 1800 (30 * 2 ^ (max attemptCount 1 - 1)) := by
  have same : max attemptCount 1 - 1 = attemptCount - 1 := by omega
  rw [backoffAfterAttempt, same]
  by_cases small : attemptCount - 1 ≤ 6
  · rw [Nat.min_eq_left small, Nat.min_comm]
  · have large : 6 ≤ attemptCount - 1 := by omega
    have power : 2 ^ 6 ≤ 2 ^ (attemptCount - 1) := Nat.pow_le_pow_right (by decide) large
    rw [Nat.min_eq_right large]
    omega

theorem backoffAfterAttempt_mono : Monotone backoffAfterAttempt := by
  intro first second earlier
  have exponent : first - 1 ≤ second - 1 := Nat.sub_le_sub_right earlier 1
  have power : 2 ^ min (first - 1) 6 ≤ 2 ^ min (second - 1) 6 := by
    apply Nat.pow_le_pow_right (by decide)
    omega
  simp only [backoffAfterAttempt]
  omega

theorem backoffAfterAttempt_bounds (attemptCount : Nat) :
    30 ≤ backoffAfterAttempt attemptCount ∧ backoffAfterAttempt attemptCount ≤ 1800 := by
  have positive : 0 < 2 ^ min (attemptCount - 1) 6 := Nat.pow_pos (by decide)
  simp only [backoffAfterAttempt]
  omega

theorem saturatingSub_toNat (attemptCount : UInt32) :
    (saturatingSub attemptCount 1).toNat = attemptCount.toNat - 1 := by
  rw [saturatingSub]
  split
  · rename_i small
    have below : attemptCount.toNat ≤ 1 := UInt32.le_iff_toNat_le.mp small
    have zero : (0 : UInt32).toNat = 0 := rfl
    omega
  · rename_i large
    have above : (1 : UInt32) ≤ attemptCount := UInt32.le_of_lt (UInt32.not_le.mp large)
    rw [UInt32.toNat_sub_of_le _ _ above]
    rfl

theorem exponent_capped (attemptCount : UInt32) :
    min (saturatingSub attemptCount 1) 6 = UInt32.ofNat (min (attemptCount.toNat - 1) 6) := by
  have difference := saturatingSub_toNat attemptCount
  have fits : min (attemptCount.toNat - 1) 6 < UInt32.size :=
    Nat.lt_of_le_of_lt (Nat.min_le_right _ _) (by decide)
  have capped : min (saturatingSub attemptCount 1) 6 =
      if saturatingSub attemptCount 1 ≤ 6 then saturatingSub attemptCount 1 else 6 := rfl
  apply UInt32.toNat_inj.mp
  rw [UInt32.toNat_ofNat_of_lt' fits, capped, ← difference]
  split
  · rename_i small
    exact (Nat.min_eq_left (UInt32.le_iff_toNat_le.mp small)).symm
  · rename_i large
    have above : 6 ≤ (saturatingSub attemptCount 1).toNat :=
      Nat.le_of_lt (UInt32.lt_iff_toNat_lt.mp (UInt32.not_le.mp large))
    exact (Nat.min_eq_right above).symm

theorem backoffWords_eq (attemptCount : UInt32) :
    (backoffWords attemptCount).map UInt64.toNat =
      some (backoffAfterAttempt attemptCount.toNat) := by
  have table : ∀ exponent : Fin 7,
      ((checkedShl 1 (UInt32.ofNat exponent)).bind fun multiplier =>
        (checkedMul 30 multiplier).bind fun seconds =>
          some (min seconds (30 * 60))).map UInt64.toNat =
        some (min (30 * 2 ^ exponent.val) (30 * 60)) := by
    decide
  have small : min (attemptCount.toNat - 1) 6 < 7 := by omega
  rw [backoffWords, exponent_capped]
  exact table ⟨min (attemptCount.toNat - 1) 6, small⟩

end Formula

end RetryPolicy

section Schedule

/-- The row waits exactly when it is to be retried, from half a minute to half an hour after the
transaction that updated it. -/
structure AwaitsRetry (row : DeliveryRow) : Prop where
  scheduled : row.nextAttemptAt.isSome = true ↔ row.status = .retrying
  soon : ∀ time ∈ row.nextAttemptAt, row.updatedAt + microseconds 30 ≤ time ∧
    time ≤ row.updatedAt + microseconds 1800

theorem advancedRow_awaits (now : Timestamp) (delivery : Delivery) (row : DeliveryRow) :
    AwaitsRetry (advancedRow now delivery row) := by
  constructor
  · by_cases retrying : delivery.status = .retrying
    · simp [advancedRow, Delivery.retryBackoff, retrying]
    · simp [advancedRow, Delivery.retryBackoff, retrying]
  · intro time stored
    by_cases retrying : delivery.status = .retrying
    · simp only [advancedRow, Delivery.retryBackoff, retrying, if_true, Option.map_some,
        Option.mem_some_iff] at stored ⊢
      have bounds := RetryPolicy.backoffAfterAttempt_bounds delivery.attemptCount
      rw [← stored]
      constructor
      · exact Nat.add_le_add_left (Nat.mul_le_mul_left 1000000 bounds.1) now
      · exact Nat.add_le_add_left (Nat.mul_le_mul_left 1000000 bounds.2) now
    · simp [advancedRow, Delivery.retryBackoff, retrying] at stored

theorem advanceDelivery_stores (now : Timestamp) (delivery : Delivery) (db : Db)
    (before : DeliveryRow) (member : before ∈ db.deliveries) (mine : before.id = delivery.id)
    (previous : before.aggregateVersion + 1 = delivery.version) :
    advancedRow now delivery before ∈ (advanceDelivery now delivery db).2.deliveries := by
  refine (mem_updateWhere _ _ _ _).mpr ⟨before, member, Or.inl ⟨?_, rfl⟩⟩
  simp [mine, previous]

/-- The wait is the unbounded formula cut at half an hour, in words that never overflow, and what is
stored for the next attempt comes from it. -/
theorem backoff_exact :
    (∀ attemptCount : UInt32,
      (RetryPolicy.backoffWords attemptCount).map UInt64.toNat =
          some (RetryPolicy.backoffAfterAttempt attemptCount.toNat) ∧
        RetryPolicy.backoffAfterAttempt attemptCount.toNat =
          min 1800 (30 * 2 ^ (max attemptCount.toNat 1 - 1))) ∧
      Monotone RetryPolicy.backoffAfterAttempt ∧
      ∀ (now : Timestamp) (delivery : Delivery) (db : Db), ∀ before ∈ db.deliveries,
        before.id = delivery.id → before.aggregateVersion + 1 = delivery.version →
        ∃ stored ∈ (advanceDelivery now delivery db).2.deliveries, stored.id = delivery.id ∧
          stored.aggregateVersion = delivery.version ∧ stored.status = delivery.status ∧
          stored.updatedAt = now ∧ AwaitsRetry stored := by
  refine ⟨?_, RetryPolicy.backoffAfterAttempt_mono, ?_⟩
  · intro attemptCount
    exact ⟨RetryPolicy.backoffWords_eq attemptCount, RetryPolicy.backoffAfterAttempt_eq _⟩
  · intro now delivery db before member mine previous
    exact ⟨_, advanceDelivery_stores now delivery db before member mine previous, mine, rfl, rfl,
      rfl, advancedRow_awaits now delivery before⟩

def failedThrice : Delivery :=
  { id := ⟨1⟩, alertId := ⟨2⟩, consumerId := ⟨3⟩, channel := .sms, endpointAddress := "237600000000"
    tier := 0, matchingSubscriptions := [], retryPolicy := .standard, status := .retrying
    attemptCount := 3, version := 7 }

def thirdAttempt : DeliveryRow :=
  { id := ⟨1⟩, alertId := ⟨2⟩, consumerId := ⟨3⟩, channel := .sms, endpointAddress := "237600000000"
    tier := 0, idempotencyKeyHash := [], matchingSubscriptions := .array [], status := .sending
    attemptCount := 3, maxAttempts := 5, aggregateVersion := 6, createdAt := 0, updatedAt := 0
    nextAttemptAt := none }

theorem backoff_exact_third : ∃ stored ∈
    (advanceDelivery 50 failedThrice { Db.empty with deliveries := [thirdAttempt] }).2.deliveries,
    stored.status = .retrying ∧ AwaitsRetry stored := by
  obtain ⟨stored, member, _, _, status, _, waits⟩ := backoff_exact.2.2 50 failedThrice
    { Db.empty with deliveries := [thirdAttempt] } thirdAttempt List.mem_cons_self rfl rfl
  exact ⟨stored, member, status, waits⟩

end Schedule

end SafeCameroon
