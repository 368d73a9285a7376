import SafeCameroon.Postgres.Schema

namespace SafeCameroon

open Table

def ruleToJson : SubscriptionRule → Json
  | .incidentType values => .object
      [("rule", .string "INCIDENT_TYPE"),
       ("values", .array (values.map fun value => .string value.asDatabaseValue))]
  | .severity operator value => .object
      [("rule", .string "SEVERITY"), ("operator", .string operator.asDatabaseValue),
       ("value", .string value.asDatabaseValue)]
  | .eventType values => .object
      [("rule", .string "EVENT_TYPE"),
       ("values", .array (values.map fun value => .string value.asDatabaseValue))]
  | .geography areas => .object
      [("rule", .string "GEOGRAPHY"), ("areas", .array (areas.map fun area => .string area.text))]
  | .visibility values => .object
      [("rule", .string "VISIBILITY"),
       ("values", .array (values.map fun value => .string value.asDatabaseValue))]

def rulesToJson (rules : List SubscriptionRule) : Json := .array (rules.map ruleToJson)

/-- A variant without fields is its name, or an object with its name and null. -/
def unitVariant : Json → Option String
  | .string name => some name
  | .object [(name, .null)] => some name
  | _ => none

/-- The names of an enumeration in an array; serialization spells them as the database does. -/
def namesFromJson {α : Type} (message : String) (read : String → Option α) (json : Json) :
    Except Failure (List α) := do
  let elements ← expect message json.asArray
  elements.mapM fun element => expect message ((unitVariant element).bind read)

/-- Rows from before several areas could be chosen carry a single one. -/
def areaNamesFromJson (json : Json) : Except Failure (List String) :=
  match (json.index "areas").asArray with
  | some areas => areas.mapM fun area =>
      expect "subscriptions.rules GEOGRAPHY areas entries are strings" area.asStr
  | none => do
      let area ← expect
        "subscriptions.rules GEOGRAPHY entries carry an \"area\" or \"areas\" field"
        (json.index "area").asStr
      return [area]

def ruleFromJson (json : Json) : Except Failure SubscriptionRule := do
  let rule ← expect
    "subscriptions.rules entries are written by this repository with a \"rule\" tag"
    (json.index "rule").asStr
  if rule = "INCIDENT_TYPE" then
    return .incidentType (← namesFromJson
      "subscriptions.rules INCIDENT_TYPE values are written by this repository"
      IncidentType.fromDatabaseValue (json.index "values"))
  else if rule = "SEVERITY" then
    let operator ← expect "subscriptions.rules SEVERITY entries carry an \"operator\" string"
      (json.index "operator").asStr
    let operator ← expect
      "subscriptions.rules SEVERITY operator is constrained to Comparison::as_database_value's output"
      (Comparison.fromDatabaseValue operator)
    let value ← expect "subscriptions.rules SEVERITY value is written by this repository"
      ((unitVariant (json.index "value")).bind Severity.fromDatabaseValue)
    return .severity operator value
  else if rule = "EVENT_TYPE" then
    return .eventType (← namesFromJson
      "subscriptions.rules EVENT_TYPE values are written by this repository"
      CaseEventType.fromDatabaseValue (json.index "values"))
  else if rule = "GEOGRAPHY" then
    let names ← areaNamesFromJson json
    let areas ← names.mapM fun name => expect
      "subscriptions.rules GEOGRAPHY areas are written non-blank by this repository"
      (GeoArea.new name).toOption
    return .geography areas
  else if rule = "VISIBILITY" then
    return .visibility (← namesFromJson
      "subscriptions.rules VISIBILITY values are written by this repository"
      AlertVisibility.fromDatabaseValue (json.index "values"))
  else .error (.panic ("unknown subscription rule tag " ++ Text.debug rule ++
    " in subscriptions.rules"))

def rulesFromJson (json : Json) : Except Failure (List SubscriptionRule) := do
  let elements ← expect
    "subscriptions.rules is constrained to be a JSON array by the CHECK constraint" json.asArray
  elements.mapM ruleFromJson

theorem mapM_map {α β γ ε : Type} (write : α → β) (read : β → Except ε γ) (shown : α → γ)
    (values : List α) (inverse : ∀ value ∈ values, read (write value) = .ok (shown value)) :
    (values.map write).mapM read = .ok (values.map shown) := by
  induction values with
  | nil => rfl
  | cons value values ih =>
      have first := inverse value List.mem_cons_self
      have rest := ih fun other member => inverse other (List.mem_cons_of_mem value member)
      simp only [List.map_cons, List.mapM_cons, first, rest, bind, Except.bind, pure, Except.pure]

theorem namesFromJson_map {α : Type} (message : String) (write : α → String)
    (read : String → Option α) (inverse : ∀ value, read (write value) = some value)
    (values : List α) :
    namesFromJson message read (.array (values.map fun value => .string (write value))) =
      .ok values := by
  have elements := mapM_map (fun value => Json.string (write value))
    (fun element : Json => expect message ((unitVariant element).bind read)) id values
    (fun value _ => by simp [unitVariant, inverse])
  simpa [namesFromJson, Json.asArray, bind, Except.bind] using elements

theorem GeoArea.new_text (area : GeoArea) : GeoArea.new area.text = .ok area := by
  simp [GeoArea.new, area.trimmed, area.nonblank]

theorem areaNamesFromJson_ruleToJson (areas : List GeoArea) :
    areaNamesFromJson (ruleToJson (.geography areas)) = .ok (areas.map (·.text)) := by
  have texts := mapM_map (fun area : GeoArea => Json.string area.text)
    (fun area : Json => expect "subscriptions.rules GEOGRAPHY areas entries are strings"
      area.asStr) (·.text) areas (fun _ _ => rfl)
  simpa [areaNamesFromJson, ruleToJson, Json.index, Json.get, Json.asArray] using texts

theorem ruleFromJson_ruleToJson (rule : SubscriptionRule) :
    ruleFromJson (ruleToJson rule) = .ok rule := by
  cases rule with
  | incidentType values =>
      have names := namesFromJson_map
        "subscriptions.rules INCIDENT_TYPE values are written by this repository"
        IncidentType.asDatabaseValue IncidentType.fromDatabaseValue IncidentType.from_as values
      simp [ruleFromJson, ruleToJson, Json.index, Json.get, Json.asStr, names, bind, Except.bind,
        pure, Except.pure]
  | severity operator value =>
      simp [ruleFromJson, ruleToJson, unitVariant, Json.index, Json.get, Json.asStr, bind,
        Except.bind, pure, Except.pure]
  | eventType values =>
      have names := namesFromJson_map
        "subscriptions.rules EVENT_TYPE values are written by this repository"
        CaseEventType.asDatabaseValue CaseEventType.fromDatabaseValue CaseEventType.from_as values
      simp [ruleFromJson, ruleToJson, Json.index, Json.get, Json.asStr, names, bind, Except.bind,
        pure, Except.pure]
  | geography areas =>
      have read := mapM_map (fun area : GeoArea => area.text)
        (fun name : String => expect
          "subscriptions.rules GEOGRAPHY areas are written non-blank by this repository"
          (GeoArea.new name).toOption) id areas
        (fun area _ => by simp [GeoArea.new_text, Except.toOption])
      simp [ruleFromJson, areaNamesFromJson_ruleToJson, read, bind, Except.bind, pure, Except.pure]
      simp [ruleToJson, Json.index, Json.get, Json.asStr]
  | visibility values =>
      have names := namesFromJson_map
        "subscriptions.rules VISIBILITY values are written by this repository"
        AlertVisibility.asDatabaseValue AlertVisibility.fromDatabaseValue AlertVisibility.from_as
        values
      simp [ruleFromJson, ruleToJson, Json.index, Json.get, Json.asStr, names, bind, Except.bind,
        pure, Except.pure]

theorem rulesFromJson_rulesToJson (rules : List SubscriptionRule) :
    rulesFromJson (rulesToJson rules) = .ok rules := by
  have elements := mapM_map ruleToJson ruleFromJson id rules
    (fun rule _ => ruleFromJson_ruleToJson rule)
  simpa [rulesFromJson, rulesToJson, Json.asArray, bind, Except.bind] using elements

/-- What the database keeps of a subscription. -/
structure SubscriptionRecord where
  id : SubscriptionId
  consumerId : ConsumerId
  version : Nat
  rules : Json

def subscriptionRecord (subscription : Subscription) : SubscriptionRecord :=
  { id := subscription.id, consumerId := subscription.consumerId, version := subscription.version
    rules := rulesToJson subscription.rules }

def subscriptionFromRow (row : SubscriptionRecord) : Except Failure Subscription := do
  let rules ← rulesFromJson row.rules
  expect "subscriptions.rules is constrained to be non-empty by the CHECK constraint"
    (Subscription.new row.id row.consumerId row.version rules).toOption

theorem subscriptionFromRow_subscriptionRecord (subscription : Subscription) :
    subscriptionFromRow (subscriptionRecord subscription) = .ok subscription := by
  have nonempty := subscription.nonempty
  simp [subscriptionFromRow, subscriptionRecord, rulesFromJson_rulesToJson, Subscription.new,
    nonempty, bind, Except.bind, Except.toOption]

end SafeCameroon
