import SafeCameroon.Api.CitizenSubscriptions
import SafeCameroon.Api.Subscriptions
import SafeCameroon.Postgres.SubscriptionRules

namespace SafeCameroon.Access.Subscriptions

open Text

inductive SubscriptionRuleOutput where
  | incidentType (values : List IncidentType)
  | severity (operator : String) (value : Severity)
  | eventType (values : List CaseEventType)
  | geography (areas : List String)
  | visibility (values : List AlertVisibility)

def ruleOutput : SubscriptionRule → SubscriptionRuleOutput
  | .incidentType values => .incidentType values
  | .severity operator value => .severity operator.asDatabaseValue value
  | .eventType values => .eventType values
  | .geography areas => .geography (areas.map (·.text))
  | .visibility values => .visibility values

/-- The members of an object, the tag first, as the serializer derived for the response writes them. -/
def SubscriptionRuleOutput.toJson : SubscriptionRuleOutput → Json
  | .incidentType values => .object
      [("rule", .string "INCIDENT_TYPE"),
       ("values", .array (values.map fun value => .string value.asDatabaseValue))]
  | .severity operator value => .object
      [("rule", .string "SEVERITY"), ("operator", .string operator),
       ("value", .string value.asDatabaseValue)]
  | .eventType values => .object
      [("rule", .string "EVENT_TYPE"),
       ("values", .array (values.map fun value => .string value.asDatabaseValue))]
  | .geography areas => .object
      [("rule", .string "GEOGRAPHY"), ("areas", .array (areas.map .string))]
  | .visibility values => .object
      [("rule", .string "VISIBILITY"),
       ("values", .array (values.map fun value => .string value.asDatabaseValue))]

/-- The only member of a name; a second one is an error as a missing one is. -/
def member (name : String) (members : List (String × Json)) : Option Json :=
  match members.filter (·.1 = name) with
  | [(_, value)] => some value
  | _ => none

/-- The tag of a rule and its fields, from an object or from an array that lists them in order. -/
def taggedFields (json : Json) (names : String → Option (List String)) :
    Option (String × List Json) :=
  match json with
  | .object members => do
      let tag ← (← member "rule" members).asStr
      let fields ← (← names tag).mapM fun name => member name members
      return (tag, fields)
  | .array (first :: fields) => do
      let tag ← first.asStr
      let names ← names tag
      if fields.length = names.length then return (tag, fields) else none
  | _ => none

/-- Where a tag was read before, an empty object stands for null too. -/
def bufferedVariant : Json → Option String
  | .object [(name, .object [])] => some name
  | json => unitVariant json

def variants {α : Type} (read : String → Option α) (json : Json) : Option (List α) := do
  let elements ← json.asArray
  elements.mapM fun element => (bufferedVariant element).bind read

def ruleFields (tag : String) : Option (List String) :=
  if tag = "INCIDENT_TYPE" then some ["values"]
  else if tag = "SEVERITY" then some ["operator", "value"]
  else if tag = "EVENT_TYPE" then some ["values"]
  else if tag = "GEOGRAPHY" then some ["areas"]
  else if tag = "VISIBILITY" then some ["values"]
  else none

/-- A rule of a request, as the deserializer derived for it reads it. -/
def SubscriptionRuleInput.fromJson (json : Json) : Option SubscriptionRuleInput := do
  let (tag, fields) ← taggedFields json ruleFields
  match fields with
  | [operator, value] =>
      return .severity (← operator.asStr)
        (← (bufferedVariant value).bind Severity.fromDatabaseValue)
  | [values] =>
      if tag = "INCIDENT_TYPE" then
        return .incidentType (← variants IncidentType.fromDatabaseValue values)
      else if tag = "EVENT_TYPE" then
        return .eventType (← variants CaseEventType.fromDatabaseValue values)
      else if tag = "GEOGRAPHY" then
        return .geography (← (← values.asArray).mapM Json.asStr)
      else return .visibility (← variants AlertVisibility.fromDatabaseValue values)
  | _ => none

/-- What a client that sends a rule back as it was shown asks for. -/
def echoed : SubscriptionRule → SubscriptionRuleInput
  | .incidentType values => .incidentType values
  | .severity operator value => .severity operator.asDatabaseValue value
  | .eventType values => .eventType values
  | .geography areas => .geography (areas.map (·.text))
  | .visibility values => .visibility values

/-- A rule that some request, of a reviewer or of a citizen, made. -/
inductive Creatable : SubscriptionRule → Prop where
  | reviewer {requestId : Uuid} {input : SubscriptionRuleInput} {rule : SubscriptionRule}
      (accepted : toDomainRule requestId input = .ok rule) : Creatable rule
  | citizen {sha256 : String → Bytes} {fresh : Supply} {request : CitizenSubscriptionRequest}
      {prepared : PreparedCitizenSubscription} {rule : SubscriptionRule}
      (accepted : prepareCitizenSubscription sha256 fresh request = .ok prepared)
      (chosen : rule ∈ prepared.subscription.rules) : Creatable rule
  | citizenUpdate {request : CitizenSubscriptions.UpdateRequest} {rule : SubscriptionRule}
      (somewhere : (request.geography.filterMap fun area => (GeoArea.new area).toOption) ≠ [])
      (chosen : rule ∈ CitizenSubscriptions.updatedRules request) : Creatable rule

theorem Creatable.areas {areas : List GeoArea} (made : Creatable (.geography areas)) : areas ≠ [] := by
  cases made with
  | @reviewer _ input _ accepted =>
      cases input with
      | geography names =>
          simp only [toDomainRule] at accepted
          split at accepted
          · cases accepted
          · split at accepted
            · cases accepted
            · rename_i some
              cases accepted
              exact some
      | severity operator value =>
          simp only [toDomainRule] at accepted
          split at accepted
          · cases accepted
          · cases accepted
      | incidentType values => cases accepted
      | eventType values => cases accepted
      | visibility values => cases accepted
  | citizen accepted chosen =>
      simp only [prepareCitizenSubscription] at accepted
      split at accepted
      · cases accepted
      · split at accepted
        · cases accepted
        · rename_i some
          split at accepted
          · cases accepted
          · cases accepted
            simp only [List.mem_cons, reduceCtorEq, SubscriptionRule.geography.injEq, false_or,
              List.not_mem_nil, or_false] at chosen
            rw [chosen]
            exact some
  | citizenUpdate somewhere chosen =>
      simp only [CitizenSubscriptions.updatedRules, List.mem_cons, reduceCtorEq,
        SubscriptionRule.geography.injEq, false_or, List.not_mem_nil, or_false] at chosen
      rw [chosen]
      exact somewhere

theorem ruleOutput_toJson (rule : SubscriptionRule) : (ruleOutput rule).toJson = ruleToJson rule := by
  cases rule with
  | geography areas =>
      simp [ruleOutput, SubscriptionRuleOutput.toJson, ruleToJson, Function.comp_def]
  | incidentType values => rfl
  | severity operator value => rfl
  | eventType values => rfl
  | visibility values => rfl

theorem mapM_inverse {α β : Type} (write : α → β) (read : β → Option α)
    (inverse : ∀ value, read (write value) = some value) (values : List α) :
    (values.map write).mapM read = some values := by
  induction values with
  | nil => rfl
  | cons value values ih => simp [inverse, ih]

theorem variants_names {α : Type} (write : α → String) (read : String → Option α)
    (inverse : ∀ value, read (write value) = some value) (values : List α) :
    variants read (.array (values.map fun value => .string (write value))) = some values := by
  simpa [variants, Json.asArray] using mapM_inverse (fun value => Json.string (write value))
    (fun element => (bufferedVariant element).bind read)
    (fun value => by simp [bufferedVariant, unitVariant, inverse]) values

theorem fromJson_ruleToJson (rule : SubscriptionRule) :
    SubscriptionRuleInput.fromJson (ruleToJson rule) = some (echoed rule) := by
  cases rule with
  | incidentType values =>
      have names := variants_names IncidentType.asDatabaseValue IncidentType.fromDatabaseValue
        IncidentType.from_as values
      simp [SubscriptionRuleInput.fromJson, ruleToJson, taggedFields, ruleFields, member, Json.asStr,
        names, echoed]
  | severity operator value =>
      simp [SubscriptionRuleInput.fromJson, ruleToJson, taggedFields, ruleFields, member, Json.asStr,
        bufferedVariant, unitVariant, echoed]
  | eventType values =>
      have names := variants_names CaseEventType.asDatabaseValue CaseEventType.fromDatabaseValue
        CaseEventType.from_as values
      simp [SubscriptionRuleInput.fromJson, ruleToJson, taggedFields, ruleFields, member, Json.asStr,
        names, echoed]
  | geography areas =>
      have texts := mapM_inverse Json.string Json.asStr (fun _ => rfl) (areas.map (·.text))
      rw [List.map_map, List.mapM_map] at texts
      simp [SubscriptionRuleInput.fromJson, ruleToJson, taggedFields, ruleFields, member, Json.asStr,
        Json.asArray, echoed]
      have read : areas.mapM (Json.asStr ∘ fun area => Json.string area.text) =
        some (areas.map (·.text)) := texts
      rw [read]
      rfl
  | visibility values =>
      have names := variants_names AlertVisibility.asDatabaseValue AlertVisibility.fromDatabaseValue
        AlertVisibility.from_as values
      simp [SubscriptionRuleInput.fromJson, ruleToJson, taggedFields, ruleFields, member, Json.asStr,
        names, echoed]

theorem toDomainRule_echoed (requestId : Uuid) (rule : SubscriptionRule)
    (somewhere : ∀ areas, rule = .geography areas → areas ≠ []) :
    toDomainRule requestId (echoed rule) = .ok rule := by
  cases rule with
  | incidentType values => rfl
  | severity operator value => simp [echoed, toDomainRule]
  | eventType values => rfl
  | geography areas =>
      have texts := mapM_map (fun area : GeoArea => area.text) GeoArea.new id areas
        fun area _ => GeoArea.new_text area
      rw [List.map_id] at texts
      simp only [echoed, toDomainRule, texts, somewhere areas rfl, if_false]
  | visibility values => rfl

/-- The object of the time when a rule had one area, with its members in any order. -/
structure LegacyGeography (json : Json) (area : String) : Prop where
  rule : json.index "rule" = .string "GEOGRAPHY"
  area : json.index "area" = .string area
  areas : (json.index "areas").asArray = none

theorem ruleFromJson_legacy {json : Json} {text : String} (legacy : LegacyGeography json text)
    (area : GeoArea) (named : GeoArea.new text = .ok area) :
    ruleFromJson json = .ok (.geography [area]) := by
  simp [ruleFromJson, areaNamesFromJson, legacy.rule, legacy.area, legacy.areas, Json.asStr, named,
    Except.toOption, bind, Except.bind, pure, Except.pure]

/-- Rules survive both of their codecs, and those of one area their first format too. -/
theorem subscription_rules_round_trip :
    (∀ rules, rulesFromJson (rulesToJson rules) = .ok rules) ∧
    (∀ subscription, subscriptionFromRow (subscriptionRecord subscription) = .ok subscription) ∧
    (∀ json text, LegacyGeography json text → trim text ≠ "" → ∃ area,
      GeoArea.new text = .ok area ∧ ruleFromJson json = .ok (.geography [area]) ∧
        ruleFromJson (ruleToJson (.geography [area])) = .ok (.geography [area])) ∧
    ∀ rule, Creatable rule → ∃ input,
      SubscriptionRuleInput.fromJson (ruleOutput rule).toJson = some input ∧
        ∀ requestId, toDomainRule requestId input = .ok rule := by
  refine ⟨rulesFromJson_rulesToJson, subscriptionFromRow_subscriptionRecord, ?_, ?_⟩
  · intro json text legacy visible
    have named : ∃ area, GeoArea.new text = .ok area := by
      simp only [GeoArea.new, visible, dite_false]
      exact ⟨_, rfl⟩
    obtain ⟨area, named⟩ := named
    exact ⟨area, named, ruleFromJson_legacy legacy area named, ruleFromJson_ruleToJson _⟩
  · intro rule made
    refine ⟨echoed rule, ?_, ?_⟩
    · rw [ruleOutput_toJson]
      exact fromJson_ruleToJson rule
    · intro requestId
      apply toDomainRule_echoed
      intro areas same
      rw [same] at made
      exact made.areas

def legacyDouala : Json := .object [("area", .string "Douala"), ("rule", .string "GEOGRAPHY")]

def douala : GeoArea :=
  { text := "Douala", trimmed := TargetGeography.douala_trimmed
    nonblank := TargetGeography.douala_nonblank }

theorem subscription_rules_round_trip_douala :
    ruleFromJson legacyDouala = .ok (.geography [douala]) ∧
      ∃ input, SubscriptionRuleInput.fromJson (ruleOutput (.geography [douala])).toJson = some input ∧
        ∀ requestId, toDomainRule requestId input = .ok (.geography [douala]) := by
  obtain ⟨_, _, legacy, shown⟩ := subscription_rules_round_trip
  obtain ⟨area, named, read, _⟩ := legacy legacyDouala "Douala"
    { rule := rfl, area := rfl, areas := rfl } (by decide)
  have same : area = douala := Except.ok.inj (named.symm.trans (GeoArea.new_text douala))
  rw [same] at read
  have made : Creatable (.geography [douala]) :=
    .reviewer (toDomainRule_echoed 0 (.geography [douala]) (by simp))
  exact ⟨read, shown _ made⟩

end SafeCameroon.Access.Subscriptions
