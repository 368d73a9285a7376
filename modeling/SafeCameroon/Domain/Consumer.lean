import SafeCameroon.Domain.Identifiers
import SafeCameroon.Library.Text

namespace SafeCameroon

open Text

inductive ConsumerType where
  | organization
  | citizen
  deriving DecidableEq, Repr

structure EmptyConsumerName where
  deriving DecidableEq, Repr

/-- Whoever receives alerts: an organization or a citizen. -/
structure Consumer where
  id : ConsumerId
  name : String
  consumerType : ConsumerType
  locale : Option String
  deriving DecidableEq, Repr

namespace Consumer

def new (id : ConsumerId) (name : String) (consumerType : ConsumerType) :
    Except EmptyConsumerName Consumer :=
  if trim name = "" then .error {}
  else .ok { id, name := trim name, consumerType, locale := none }

def withLocale (consumer : Consumer) (locale : Option String) : Consumer :=
  { consumer with locale := (locale.map trim).filter (· ≠ "") }

end Consumer

end SafeCameroon
