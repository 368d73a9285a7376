import SafeCameroon.Application.AlertWorkflow
import SafeCameroon.Application.Channel
import SafeCameroon.Library.Table

namespace SafeCameroon

open Table Text

def messageFields : List AlertField :=
  [.safeDescription, .safeDescriptionEn, .safeDescriptionFr, .officialContact, .caseReference]

structure SameMessage (alert other : Alert) : Prop where
  severity : alert.severity = other.severity
  targetGeography : alert.targetGeography = other.targetGeography
  fields : ∀ field ∈ messageFields, alert.fieldValue field = other.fieldValue field

/-- What an alert that was created has to do with its case, its policy and its actor, and what any
message about it can say. -/
structure Discloses (c : Case) (visibility : AlertVisibility) (incidentType : IncidentType)
    (fieldAllowlist : List AlertField) (actor : Actor) (alert : Alert) : Prop where
  verified : c.status = .verified ∨ c.status = .active ∨ c.status = .resolved
  incidentType : c.incidentType = incidentType
  reviewer : visibility = .community ∨ visibility = .«public» → ∃ id, actor = .reviewer id
  distinct : (alert.fields.map (·.field)).Nodup
  allowed : ∀ value ∈ alert.fields, value.field ∈ fieldAllowlist
  unidentified : AlertField.reporterIdentity ∉ fieldAllowlist
  withheld : visibility = .community ∨ visibility = .«public» →
    AlertField.internalNotes ∉ fieldAllowlist ∧ AlertField.exactLocation ∉ fieldAllowlist ∧
      AlertField.witnessDetails ∉ fieldAllowlist
  rendered : ∀ (unicode : UnicodeData) (other : Alert) (delivery otherDelivery : Delivery)
    (locale : Option String), SameMessage alert other →
      (buildOutboundMessage unicode alert delivery locale).body =
        (buildOutboundMessage unicode other otherDelivery locale).body

theorem descriptionForLocale_congr (unicode : UnicodeData) (alert other : Alert)
    (locale : Option String)
    (older : alert.fieldValue .safeDescription = other.fieldValue .safeDescription)
    (english : alert.fieldValue .safeDescriptionEn = other.fieldValue .safeDescriptionEn)
    (french : alert.fieldValue .safeDescriptionFr = other.fieldValue .safeDescriptionFr) :
    alert.descriptionForLocale unicode locale = other.descriptionForLocale unicode locale := by
  -- The equation lemma of the definition takes long to generate, so it is unfolded without one.
  delta Alert.descriptionForLocale
  cases locale with
  | none =>
      dsimp only
      rw [if_neg Bool.false_ne_true, english, french, older]
  | some value =>
      dsimp only
      cases prefersFrench : startsWith (unicode.toLowercase (trim value)) "fr" with
      | true => rw [if_pos rfl, french, english, older]
      | false => rw [if_neg Bool.false_ne_true, english, french, older]

theorem SameMessage.body {alert other : Alert} (same : SameMessage alert other)
    (unicode : UnicodeData) (delivery otherDelivery : Delivery) (locale : Option String) :
    (buildOutboundMessage unicode alert delivery locale).body =
      (buildOutboundMessage unicode other otherDelivery locale).body := by
  have description := descriptionForLocale_congr unicode alert other locale
    (same.fields .safeDescription (by decide)) (same.fields .safeDescriptionEn (by decide))
    (same.fields .safeDescriptionFr (by decide))
  have contact := same.fields .officialContact (by decide)
  have reference := same.fields .caseReference (by decide)
  unfold buildOutboundMessage
  dsimp only
  rw [same.severity, same.targetGeography, description, contact, reference]

theorem createFromCase_ok (fresh : Supply) (c : Case) (policy : AlertPolicy) (severity : Severity)
    (targetGeography : TargetGeography) (fields : List AlertFieldValue)
    (issuedByOrganizationId : Option OrganizationId) (alert : Alert) (event : AlertEvent)
    (h : Alert.createFromCase fresh c policy severity targetGeography fields issuedByOrganizationId =
      .ok (alert, event)) :
    isVerifiedOrLater c.status = true ∧ c.incidentType = policy.incidentType ∧
      checkFields policy [] fields = .ok () ∧ alert.fields = fields := by
  simp only [Alert.createFromCase] at h
  split at h
  · simp at h
  · rename_i verified
    split at h
    · simp at h
    · rename_i same
      simp only [bind_ok, pure, Except.pure, Except.ok.injEq, Prod.mk.injEq] at h
      obtain ⟨_, checked, rfl, _⟩ := h
      exact ⟨by simpa using verified, by simpa using same, checked, rfl⟩

theorem createAlertFromCase_ok (sha256 : String → List UInt8) (fresh : Supply) (c : Case)
    (policy : AlertPolicy) (severity : Severity) (targetGeography : TargetGeography)
    (fields : List AlertFieldValue) (actor : Actor) (requestId : Uuid)
    (idempotencyKey : Option String) (issuedByOrganizationId : Option OrganizationId)
    (creation : AlertCreation)
    (h : createAlertFromCase sha256 fresh c policy severity targetGeography fields actor requestId
      idempotencyKey issuedByOrganizationId = .ok creation) :
    AlertWorkflow.authorizeAlertAction actor policy.visibility = .ok () ∧
      Alert.createFromCase fresh c policy severity targetGeography fields issuedByOrganizationId =
        .ok (creation.alert, creation.event) ∧ creation.actor = actor := by
  simp only [createAlertFromCase, bind_ok] at h
  obtain ⟨_, authorized, ⟨alert, event⟩, created, written⟩ := h
  simp only [pure, Except.pure, Except.ok.injEq] at written
  subst written
  refine ⟨?_, ?_, rfl⟩
  · cases result : AlertWorkflow.authorizeAlertAction actor policy.visibility with
    | ok value => rfl
    | error error => simp [result, Except.mapError] at authorized
  · cases result : Alert.createFromCase fresh c policy severity targetGeography fields
        issuedByOrganizationId with
    | ok pair =>
        simp only [result, Except.mapError, Except.ok.injEq] at created
        rw [created]
    | error error => simp [result, Except.mapError] at created

/-- A created alert discloses what its policy allows, for whatever policy was accepted. -/
theorem created_alert_discloses (sha256 : String → List UInt8) (fresh : Supply) (policyId : String)
    (policyVersion : Nat) (incidentType : IncidentType) (visibility : AlertVisibility)
    (trigger : CaseEventType) (fieldAllowlist : List AlertField) (policy : AlertPolicy)
    (accepted : AlertPolicy.new policyId policyVersion incidentType visibility trigger fieldAllowlist =
      .ok policy)
    (c : Case) (severity : Severity) (targetGeography : TargetGeography)
    (fields : List AlertFieldValue) (actor : Actor) (requestId : Uuid)
    (idempotencyKey : Option String) (issuedByOrganizationId : Option OrganizationId)
    (creation : AlertCreation)
    (created : createAlertFromCase sha256 fresh c policy severity targetGeography fields actor
      requestId idempotencyKey issuedByOrganizationId = .ok creation) :
    Discloses c visibility incidentType fieldAllowlist actor creation.alert := by
  obtain ⟨sameType, sameVisibility, _, sameFields⟩ :=
    AlertPolicy.new_ok policyId policyVersion incidentType visibility trigger fieldAllowlist policy
      accepted
  obtain ⟨authorized, made, _⟩ := createAlertFromCase_ok sha256 fresh c policy severity targetGeography
    fields actor requestId idempotencyKey issuedByOrganizationId creation created
  obtain ⟨verified, ofType, checked, supplied⟩ := createFromCase_ok fresh c policy severity
    targetGeography fields issuedByOrganizationId creation.alert creation.event made
  obtain ⟨allowed, distinct⟩ := checkFields_ok policy [] fields checked
  have outside : visibility = .community ∨ visibility = .«public» →
      policy.visibility.admitsInternalOnlyFields = false := by
    rw [sameVisibility]
    rintro (rfl | rfl) <;> rfl
  constructor
  · cases status : c.status <;> simp [status, isVerifiedOrLater] at verified ⊢
  · rw [ofType, sameType]
  · intro exposed
    simp only [AlertWorkflow.authorizeAlertAction, outside exposed] at authorized
    cases actor with
    | reviewer id => exact ⟨id, rfl⟩
    | automated => simp at authorized
  · rw [supplied]
    exact distinct
  · intro value member
    rw [supplied] at member
    rw [← sameFields]
    exact (allowed value member).1
  · intro member
    rw [← sameFields] at member
    have never := policy.unforbidden _ member
    simp [AlertField.isForbidden] at never
  · intro exposed
    have withheld : ∀ field, field.isRestrictedToInternalAudiences = true →
        field ∉ fieldAllowlist := by
      intro field restricted member
      rw [← sameFields] at member
      have never := policy.unrestricted (outside exposed) field member
      rw [restricted] at never
      simp at never
    exact ⟨withheld _ rfl, withheld _ rfl, withheld _ rfl⟩
  · intro unicode other delivery otherDelivery locale same
    exact same.body unicode delivery otherDelivery locale

/-- A reviewer alerts a community about a verified case of a missing child. -/
theorem created_alert_discloses_community : ∃ creation : AlertCreation, Discloses
    { id := ⟨1⟩, incidentType := .missingChild, status := .verified, reportIds := [⟨2⟩], version := 3 }
    .community .missingChild AlertPolicy.missingChildCommunityV1.fieldAllowlist (.reviewer 5)
    creation.alert :=
  ⟨_, created_alert_discloses (fun _ => []) (fun draw => Fin.ofNat _ draw) "MISSING_CHILD_COMMUNITY" 1
    .missingChild .community .caseVerified _ .missingChildCommunityV1
    AlertPolicy.missingChildCommunityV1_new _ .high
    { text := "Douala", trimmed := by decide, nonblank := by decide }
    [{ field := .incidentCategory, value := "MISSING_CHILD" },
     { field := .safeDescriptionFr, value := "Enfant de huit ans" }] (.reviewer 5) 6 none none _ rfl⟩

end SafeCameroon
