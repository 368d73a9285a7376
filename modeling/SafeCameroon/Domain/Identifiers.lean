import SafeCameroon.Library.Json
import Mathlib.Data.Nat.Pairing

namespace SafeCameroon

structure ReportId where
  uuid : Uuid
  deriving DecidableEq, Repr

structure CaseId where
  uuid : Uuid
  deriving DecidableEq, Repr

structure AlertId where
  uuid : Uuid
  deriving DecidableEq, Repr

structure ConsumerId where
  uuid : Uuid
  deriving DecidableEq, Repr

structure SubscriptionId where
  uuid : Uuid
  deriving DecidableEq, Repr

structure DeliveryId where
  uuid : Uuid
  deriving DecidableEq, Repr

structure OrganizationId where
  uuid : Uuid
  deriving DecidableEq, Repr

/-- The identifiers `Uuid::new_v4` returns to one caller, in the order it draws them. -/
abbrev Supply := Nat → Uuid

namespace Supply

def of (caller : Nat) : Supply := fun draw => Fin.ofNat _ (1000 * caller + draw)

def part (fresh : Supply) (index : Nat) : Supply := fun draw => fresh (Nat.pair index draw)

end Supply

end SafeCameroon
