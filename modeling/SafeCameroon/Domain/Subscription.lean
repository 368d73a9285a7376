import SafeCameroon.Domain.Alert

namespace SafeCameroon

open Text

inductive Comparison where
  | greaterThan
  | greaterThanOrEqual
  | equal
  | lessThanOrEqual
  | lessThan
  deriving DecidableEq, Repr

/-- Compares two values by their place in their order. -/
def Comparison.evaluate : Comparison → Nat → Nat → Bool
  | .greaterThan, left, right => decide (left > right)
  | .greaterThanOrEqual, left, right => decide (left ≥ right)
  | .equal, left, right => decide (left = right)
  | .lessThanOrEqual, left, right => decide (left ≤ right)
  | .lessThan, left, right => decide (left < right)

namespace Comparison

def asDatabaseValue : Comparison → String
  | .greaterThan => "GREATER_THAN"
  | .greaterThanOrEqual => "GREATER_THAN_OR_EQUAL"
  | .equal => "EQUAL"
  | .lessThanOrEqual => "LESS_THAN_OR_EQUAL"
  | .lessThan => "LESS_THAN"

def fromDatabaseValue (value : String) : Option Comparison :=
  if value = "GREATER_THAN" then some .greaterThan
  else if value = "GREATER_THAN_OR_EQUAL" then some .greaterThanOrEqual
  else if value = "EQUAL" then some .equal
  else if value = "LESS_THAN_OR_EQUAL" then some .lessThanOrEqual
  else if value = "LESS_THAN" then some .lessThan
  else none

@[simp] theorem from_as (comparison : Comparison) :
    fromDatabaseValue comparison.asDatabaseValue = some comparison := by
  cases comparison <;> decide

end Comparison

/-- A subscriber area is never blank and carries no surrounding white space. -/
structure GeoArea where
  text : String
  trimmed : trim text = text
  nonblank : text ≠ ""

theorem GeoArea.text_iff (first second : GeoArea) : first.text = second.text ↔ first = second := by
  cases first
  cases second
  simp

instance : DecidableEq GeoArea := fun first second => decidable_of_iff _ (GeoArea.text_iff first second)

structure EmptyGeoArea where
  deriving DecidableEq, Repr

namespace GeoArea

def new (name : String) : Except EmptyGeoArea GeoArea :=
  if blank : trim name = "" then .error {}
  else .ok { text := trim name, trimmed := trim_trim name, nonblank := blank }

def matchesTarget (unicode : UnicodeData) (area : GeoArea) (target : TargetGeography) : Bool :=
  contains (unicode.toLowercase target.text) (unicode.toLowercase area.text)

end GeoArea

inductive SubscriptionRule where
  | incidentType (values : List IncidentType)
  | severity (operator : Comparison) (value : Severity)
  | eventType (values : List CaseEventType)
  | geography (areas : List GeoArea)
  | visibility (values : List AlertVisibility)
  deriving DecidableEq

structure MatchReason where
  rule : SubscriptionRule
  matched : Bool
  deriving DecidableEq

/-- A subscription declares at least one rule. -/
structure Subscription where
  id : SubscriptionId
  consumerId : ConsumerId
  version : Nat
  rules : List SubscriptionRule
  nonempty : rules ≠ []

structure EmptySubscriptionRules where
  deriving DecidableEq, Repr

namespace Subscription

def new (id : SubscriptionId) (consumerId : ConsumerId) (version : Nat)
    (rules : List SubscriptionRule) : Except EmptySubscriptionRules Subscription :=
  if empty : rules = [] then .error {} else .ok { id, consumerId, version, rules, nonempty := empty }

/-- Replaces the rules as a whole, under the next version. -/
def updateRules (subscription : Subscription) (rules : List SubscriptionRule) :
    Except EmptySubscriptionRules Subscription :=
  if empty : rules = [] then .error {}
  else .ok { subscription with version := subscription.version + 1, rules, nonempty := empty }

theorem new_ok {id : SubscriptionId} {consumerId : ConsumerId} {version : Nat}
    {rules : List SubscriptionRule} {subscription : Subscription}
    (h : new id consumerId version rules = .ok subscription) :
    subscription.id = id ∧ subscription.consumerId = consumerId ∧ subscription.rules = rules ∧
      subscription.version = version := by
  simp only [new] at h
  split at h
  · cases h
  · simp only [Except.ok.injEq] at h
    subst h
    exact ⟨rfl, rfl, rfl, rfl⟩

theorem updateRules_ok {before subscription : Subscription} {rules : List SubscriptionRule}
    (h : before.updateRules rules = .ok subscription) :
    subscription.id = before.id ∧ subscription.consumerId = before.consumerId ∧
      subscription.rules = rules ∧ rules ≠ [] := by
  simp only [updateRules] at h
  split at h
  · cases h
  · rename_i nonempty
    simp only [Except.ok.injEq] at h
    subst h
    exact ⟨rfl, rfl, rfl, nonempty⟩

end Subscription

structure MatchDecision where
  subscriptionId : SubscriptionId
  subscriptionVersion : Nat
  consumerId : ConsumerId
  matched : Bool
  reasons : List MatchReason
  deriving DecidableEq

def evaluateRule (unicode : UnicodeData) (rule : SubscriptionRule) (alert : Alert) : MatchReason :=
  let matched := match rule with
    | .incidentType values => decide (alert.incidentType ∈ values)
    | .severity operator value => operator.evaluate alert.severity.rank value.rank
    | .eventType values => decide (alert.trigger ∈ values)
    | .geography areas => areas.any fun area => area.matchesTarget unicode alert.targetGeography
    | .visibility values => decide (alert.visibility ∈ values)
  { rule, matched }

def evaluateSubscription (unicode : UnicodeData) (subscription : Subscription) (alert : Alert) :
    MatchDecision :=
  let reasons := subscription.rules.map fun rule => evaluateRule unicode rule alert
  { subscriptionId := subscription.id
    subscriptionVersion := subscription.version
    consumerId := subscription.consumerId
    matched := reasons.all (·.matched)
    reasons }

def evaluateSubscriptions (unicode : UnicodeData) (subscriptions : List Subscription)
    (alert : Alert) : List MatchDecision :=
  subscriptions.map fun subscription => evaluateSubscription unicode subscription alert

structure MatchedSubscription where
  subscriptionId : SubscriptionId
  subscriptionVersion : Nat
  deriving DecidableEq, Repr

structure ConsumerMatch where
  consumerId : ConsumerId
  matchingSubscriptions : List MatchedSubscription
  deriving DecidableEq, Repr

def addMatch (consumerId : ConsumerId) (matched : MatchedSubscription) :
    List ConsumerMatch → List ConsumerMatch
  | [] => [{ consumerId, matchingSubscriptions := [matched] }]
  | head :: tail =>
      if head.consumerId = consumerId then
        { head with matchingSubscriptions := head.matchingSubscriptions ++ [matched] } :: tail
      else head :: addMatch consumerId matched tail

def deduplicateByConsumer (decisions : List MatchDecision) : List ConsumerMatch :=
  (decisions.filter (·.matched)).foldl (fun result decision =>
    addMatch decision.consumerId
      { subscriptionId := decision.subscriptionId
        subscriptionVersion := decision.subscriptionVersion } result) []

end SafeCameroon
