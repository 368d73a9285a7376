import SafeCameroon.Application.RateLimit
import SafeCameroon.Library.FixedWindow
import SafeCameroon.Library.Journal

namespace SafeCameroon.RateLimits

open Table Process Incidents

/-- A counter of requests; the window is named by its first second. -/
structure WindowRow where
  scope : String
  sourceKey : String
  windowStart : Nat
  requestCount : Nat

def WindowRow.key (row : WindowRow) : String × String × Nat :=
  (row.scope, row.sourceKey, row.windowStart)

/-- Counts a request in the row of its window, which the first one inserts, and answers the count. -/
def recordRequest (scope sourceKey : String) (windowStart : Nat) (windows : List WindowRow) :
    Except Failure (Nat × List WindowRow) :=
  if sourceKey.toList.all (· = ' ') then .error .database
  else match lookup WindowRow.key (scope, sourceKey, windowStart) windows with
    | none => .ok (1, windows ++ [{ scope, sourceKey, windowStart, requestCount := 1 }])
    | some row =>
        -- The column holds 32 bits with a sign.
        if row.requestCount + 1 < 2 ^ 31 then
          .ok (row.requestCount + 1,
            updateWhere (fun other => decide (other.key = (scope, sourceKey, windowStart)))
              (fun other => { other with requestCount := other.requestCount + 1 }) windows)
        else .error .database

def expired (cutoff : Int) (row : WindowRow) : Bool := decide ((row.windowStart : Int) < cutoff)

/-- Removes the windows that began before the cutoff and answers how many they were. -/
def deleteWindowsBefore (cutoff : Int) (windows : List WindowRow) : Nat × List WindowRow :=
  ((windows.filter (expired cutoff)).length, windows.filter fun row => !expired cutoff row)

inductive Call where
  | now
  | recordRequest (scope sourceKey : String) (windowStart : Nat)
  | deleteWindowsBefore (cutoff : Int)

@[reducible] def Call.Res : Call → Type
  | .now => Nat
  | .recordRequest _ _ _ => Nat
  | .deleteWindowsBefore _ => Nat

@[reducible] def limiterInterface : Interface := { Op := Call, Res := Call.Res, Err := Failure }

def runCall (occasion : Occasion) : (call : Call) → List WindowRow →
    Except Failure call.Res × List WindowRow
  | .now, windows => (.ok occasion.now, windows)
  | .recordRequest scope sourceKey windowStart, windows =>
      if occasion.fault then (.error .database, windows)
      else match recordRequest scope sourceKey windowStart windows with
        | .error failure => (.error failure, windows)
        | .ok (count, after) => (.ok count, after)
  | .deleteWindowsBefore cutoff, windows =>
      if occasion.fault then (.error .database, windows)
      else (.ok (deleteWindowsBefore cutoff windows).1, (deleteWindowsBefore cutoff windows).2)

abbrev World := Journal limiterInterface (List WindowRow)

@[reducible] def limiterMachine : Machine limiterInterface := Journal.machine runCall

abbrev Limiter := Proc limiterInterface Failure

def ask (call : Call) : Limiter call.Res := Proc.perform (I := limiterInterface) call id

def recordAndCheck (scope : RateLimitScope) (sourceKey : String) : Limiter Bool := do
  let now ← ask .now
  let windowStart := FixedWindow.start scope.window (now / second)
  let requestCount ← ask (.recordRequest scope.asDatabaseValue sourceKey windowStart)
  return decide (requestCount ≤ scope.limit)

/-- How long a window is kept after it began, in seconds. -/
def retention : Nat := 24 * 60 * 60

def deleteExpiredWindows : Limiter Nat := do
  let now ← ask .now
  ask (.deleteWindowsBefore (((now / second : Nat) : Int) - retention))

/-- A check of one request, or a cleanup. -/
inductive Job where
  | check (scope : RateLimitScope) (sourceKey : String)
  | cleanup

inductive Outcome where
  | checked (withinLimit : Bool)
  | cleaned (removed : Nat)

def program : Job → Limiter Outcome
  | .check scope sourceKey => .checked <$> recordAndCheck scope sourceKey
  | .cleanup => .cleaned <$> deleteExpiredWindows

/-- What was read from the clock is less than 23 hours old. -/
def current (now read : Nat) : Prop := now < read + 23 * 60 * 60 * second

/-- The clock never goes back, and a request is recorded while its time is current. -/
def limiterRules : Rules limiterMachine where
  mayCall := fun pid call occasion world => world.clock ≤ occasion.now ∧
    ∀ scope sourceKey windowStart, call = .recordRequest scope sourceKey windowStart →
      ∀ read, ⟨.now, .ok read⟩ ∈ world.trace pid → current occasion.now read
  mayHalt := fun _ _ _ => True

abbrev Pool := Config limiterMachine Failure Outcome

/-- The configurations that checks and cleanups reach, any number of them at a time. -/
abbrev Reaches (jobs : Nat → Job) (clock : Nat) : Pool → Prop :=
  Reach limiterRules (fun pid => program (jobs pid)) (initially (Journal.initial [] clock))

end SafeCameroon.RateLimits
