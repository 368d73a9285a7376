import Mathlib.Data.Finset.Card
import Mathlib.Data.Finset.Dedup

namespace SafeCameroon.FixedWindow

def start (length time : Nat) : Nat := time - time % length

theorem start_eq (length time : Nat) : start length time = length * (time / length) := by
  have split := Nat.div_add_mod time length
  rw [start]
  omega

theorem lt_start_add (length time : Nat) (positive : 0 < length) :
    time < start length time + length := by
  have rest := Nat.mod_lt time positive
  have within := Nat.mod_le time length
  rw [start]
  omega

theorem start_within (length first time : Nat) (positive : 0 < length) (later : first ≤ time)
    (near : time ≤ first + length) :
    start length time = start length first ∨
      start length time = start length first + length := by
  have low : first / length ≤ time / length := Nat.div_le_div_right later
  have high : time / length ≤ first / length + 1 := by
    calc time / length ≤ (first + length) / length := Nat.div_le_div_right near
      _ = first / length + 1 := Nat.add_div_right first positive
  have cases : time / length = first / length ∨ time / length = first / length + 1 := by omega
  rw [start_eq, start_eq]
  cases cases with
  | inl same =>
      left
      rw [same]
  | inr next =>
      right
      rw [next, Nat.mul_add, Nat.mul_one]

theorem card_le_two {Call : Type} [DecidableEq Call] (limit : Nat) (first second : List Call)
    (calls : Finset Call)
    (among : ∀ call ∈ calls, call ∈ first.take limit ∨ call ∈ second.take limit) :
    calls.card ≤ 2 * limit := by
  have covered : calls ⊆ (first.take limit ++ second.take limit).toFinset := by
    intro call member
    rw [List.mem_toFinset, List.mem_append]
    exact among call member
  calc calls.card ≤ (first.take limit ++ second.take limit).toFinset.card :=
        Finset.card_le_card covered
    _ ≤ (first.take limit ++ second.take limit).length := List.toFinset_card_le _
    _ = (first.take limit).length + (second.take limit).length := List.length_append
    _ ≤ limit + limit := Nat.add_le_add (List.length_take_le _ _) (List.length_take_le _ _)
    _ = 2 * limit := (Nat.two_mul limit).symm

end SafeCameroon.FixedWindow
