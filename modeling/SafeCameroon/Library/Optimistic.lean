import Mathlib.Data.List.Basic

namespace SafeCameroon.Optimistic

variable {S E : Type}

/-- The events of the log lead, oldest first, from the start to the state. -/
inductive Replays (legal : S → E → S → Prop) (start : S) : List E → S → Prop where
  | start : Replays legal start [] start
  | event {log : List E} {before after : S} {event : E} (replayed : Replays legal start log before)
      (step : legal before event after) : Replays legal start (log ++ [event]) after

theorem replays_invariant (legal : S → E → S → Prop) (start : S) (holds : List E → S → Prop)
    (first : holds [] start)
    (next : ∀ log before event after, holds log before → legal before event after →
      holds (log ++ [event]) after)
    (log : List E) (state : S) (replayed : Replays legal start log state) : holds log state := by
  induction replayed with
  | start => exact first
  | event _ step ih => exact next _ _ _ _ ih step

/-- A stored state with its version and the events written so far. -/
structure Record (S E : Type) where
  version : Nat
  state : S
  log : List E

structure Sound (legal : S → E → S → Prop) (start : S) (record : Record S E) : Prop where
  version_eq : record.version = record.log.length + 1
  replays : Replays legal start record.log record.state

def Behind (version : Nat) (state : S) (record : Record S E) : Prop :=
  version ≤ record.version ∧ (version = record.version → state = record.state)

def Record.write (record : Record S E) (version : Nat) (state : S) (event : E) : Record S E :=
  if record.version + 1 = version then { version, state, log := record.log ++ [event] } else record

theorem sound_create (legal : S → E → S → Prop) (start : S) :
    Sound legal start { version := 1, state := start, log := [] } where
  version_eq := rfl
  replays := .start

theorem sound_write (legal : S → E → S → Prop) (start : S) (record : Record S E) (version : Nat)
    (before after : S) (event : E) (sound : Sound legal start record)
    (behind : Behind version before record) (step : legal before event after) :
    Sound legal start (record.write (version + 1) after event) := by
  by_cases current : record.version + 1 = version + 1
  · have same : before = record.state := behind.2 (by omega)
    simp only [Record.write, current, if_true]
    refine ⟨?_, .event sound.replays (same ▸ step)⟩
    have length := sound.version_eq
    simp only [List.length_append, List.length_singleton]
    omega
  · simpa only [Record.write, current, if_false] using sound

theorem behind_write (record : Record S E) (version written : Nat) (state after : S) (event : E)
    (behind : Behind version state record) :
    Behind version state (record.write written after event) := by
  by_cases current : record.version + 1 = written
  · simp only [Record.write, current, if_true]
    have older := behind.1
    exact ⟨by simp only; omega, fun same => by simp only at same; omega⟩
  · simpa only [Record.write, current, if_false] using behind

theorem behind_self (record : Record S E) : Behind record.version record.state record :=
  ⟨Nat.le_refl _, fun _ => rfl⟩

end SafeCameroon.Optimistic
