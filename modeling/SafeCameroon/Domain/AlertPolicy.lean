import SafeCameroon.Domain.Alert

namespace SafeCameroon

namespace AlertVisibility

def admitsInternalOnlyFields : AlertVisibility → Bool
  | .internal | .partner => true
  | .community | .«public» => false

end AlertVisibility

namespace AlertField

def isForbidden : AlertField → Bool
  | .reporterIdentity => true
  | _ => false

def isRestrictedToInternalAudiences : AlertField → Bool
  | .internalNotes | .exactLocation | .witnessDetails => true
  | _ => false

end AlertField

inductive AlertPolicyError where
  | emptyFieldAllowlist
  | fieldNeverAllowed (field : AlertField)
  | fieldNotAllowedForVisibility (field : AlertField) (visibility : AlertVisibility)
  | triggerBeforeVerification (trigger : CaseEventType)
  deriving DecidableEq, Repr

def followsVerification : CaseEventType → Bool
  | .caseVerified | .caseActivated | .caseResolved => true
  | _ => false

/-- Which fields of a case an audience may see, and upon which event of the case. -/
structure AlertPolicy where
  id : String
  version : Nat
  incidentType : IncidentType
  visibility : AlertVisibility
  trigger : CaseEventType
  fieldAllowlist : List AlertField
  nonempty : fieldAllowlist ≠ []
  unforbidden : ∀ field ∈ fieldAllowlist, field.isForbidden = false
  unrestricted : visibility.admitsInternalOnlyFields = false →
    ∀ field ∈ fieldAllowlist, field.isRestrictedToInternalAudiences = false
  triggered : followsVerification trigger = true

namespace AlertPolicy

def new (id : String) (version : Nat) (incidentType : IncidentType) (visibility : AlertVisibility)
    (trigger : CaseEventType) (fieldAllowlist : List AlertField) :
    Except AlertPolicyError AlertPolicy :=
  if empty : fieldAllowlist = [] then .error .emptyFieldAllowlist
  else match forbidden : fieldAllowlist.find? (·.isForbidden) with
    | some field => .error (.fieldNeverAllowed field)
    | none =>
        match restricted : (if visibility.admitsInternalOnlyFields then none
            else fieldAllowlist.find? (·.isRestrictedToInternalAudiences)) with
        | some field => .error (.fieldNotAllowedForVisibility field visibility)
        | none =>
            if late : followsVerification trigger = true then .ok
              { id, version, incidentType, visibility, trigger, fieldAllowlist
                nonempty := empty
                unforbidden := by simpa using forbidden
                unrestricted := fun outside => by simpa [outside] using restricted
                triggered := late }
            else .error (.triggerBeforeVerification trigger)

def allowsField (policy : AlertPolicy) (field : AlertField) : Bool :=
  decide (field ∈ policy.fieldAllowlist)

theorem new_ok (id : String) (version : Nat) (incidentType : IncidentType)
    (visibility : AlertVisibility) (trigger : CaseEventType) (fieldAllowlist : List AlertField)
    (policy : AlertPolicy)
    (h : new id version incidentType visibility trigger fieldAllowlist = .ok policy) :
    policy.incidentType = incidentType ∧ policy.visibility = visibility ∧
      policy.trigger = trigger ∧ policy.fieldAllowlist = fieldAllowlist := by
  simp only [new] at h
  split at h
  · simp at h
  · split at h
    · simp at h
    · split at h
      · simp at h
      · split at h
        · obtain rfl := Except.ok.inj h
          exact ⟨rfl, rfl, rfl, rfl⟩
        · simp at h

def missingChildCommunityV1 : AlertPolicy :=
  { id := "MISSING_CHILD_COMMUNITY", version := 1, incidentType := .missingChild
    visibility := .community, trigger := .caseVerified
    fieldAllowlist :=
      [.incidentCategory, .approximateAge, .lastSeenGeneralArea, .timeWindow, .safeDescriptionEn,
       .safeDescriptionFr, .officialContact, .caseReference]
    nonempty := by decide, unforbidden := by decide, unrestricted := by decide
    triggered := by decide }

theorem missingChildCommunityV1_new : new "MISSING_CHILD_COMMUNITY" 1 .missingChild .community
    .caseVerified missingChildCommunityV1.fieldAllowlist = .ok missingChildCommunityV1 := rfl

end AlertPolicy

inductive AlertCreationError where
  | caseNotVerified (status : CaseStatus)
  | incidentTypeMismatch (caseIncidentType policyIncidentType : IncidentType)
  | fieldNotAllowedByPolicy (field : AlertField)
  | duplicateField (field : AlertField)
  deriving DecidableEq, Repr

structure AlertTransitionError where
  before : AlertStatus
  after : AlertStatus
  deriving DecidableEq, Repr

def isVerifiedOrLater : CaseStatus → Bool
  | .verified | .active | .resolved => true
  | _ => false

/-- The loop over the supplied fields; `seen` are those before the current one. -/
def checkFields (policy : AlertPolicy) :
    List AlertField → List AlertFieldValue → Except AlertCreationError Unit
  | _, [] => .ok ()
  | seen, value :: rest =>
      if policy.allowsField value.field then
        if value.field ∈ seen then .error (.duplicateField value.field)
        else checkFields policy (seen ++ [value.field]) rest
      else .error (.fieldNotAllowedByPolicy value.field)

namespace Alert

def event (alert : Alert) (id : Uuid) (eventType : AlertEventType) : AlertEvent :=
  { id, alertId := alert.id, eventType, aggregateVersion := alert.version }

def createFromCase (fresh : Supply) (c : Case) (policy : AlertPolicy) (severity : Severity)
    (targetGeography : TargetGeography) (fields : List AlertFieldValue)
    (issuedByOrganizationId : Option OrganizationId) :
    Except AlertCreationError (Alert × AlertEvent) :=
  if isVerifiedOrLater c.status = false then .error (.caseNotVerified c.status)
  else if c.incidentType ≠ policy.incidentType then
    .error (.incidentTypeMismatch c.incidentType policy.incidentType)
  else do
    checkFields policy [] fields
    let alert : Alert :=
      { id := ⟨fresh 0⟩, caseId := c.id, policyId := policy.id, policyVersion := policy.version
        incidentType := policy.incidentType, severity, visibility := policy.visibility
        trigger := policy.trigger, targetGeography, status := .active, fields, version := 1
        issuedByOrganizationId }
    return (alert, alert.event (fresh 1) .alertCreated)

def cancel (fresh : Supply) (alert : Alert) : Except AlertTransitionError (Alert × AlertEvent) :=
  if alert.status = .active then
    let alert := { alert with status := .cancelled, version := alert.version + 1 }
    .ok (alert, alert.event (fresh 0) .alertCancelled)
  else .error { before := alert.status, after := .cancelled }

end Alert

structure Alert.New (c : Case) (policy : AlertPolicy) (issuer : Option OrganizationId)
    (alert : Alert) (event : AlertEvent) : Prop where
  verified : isVerifiedOrLater c.status = true
  caseId : alert.caseId = c.id
  policyVersion : alert.policyVersion = policy.version
  visibility : alert.visibility = policy.visibility
  status : alert.status = .active
  version : alert.version = 1
  issuer : alert.issuedByOrganizationId = issuer
  subject : event.alertId = alert.id
  type : event.eventType = .alertCreated
  number : event.aggregateVersion = 1

theorem Alert.createFromCase_new (fresh : Supply) (c : Case) (policy : AlertPolicy)
    (severity : Severity) (targetGeography : TargetGeography) (fields : List AlertFieldValue)
    (issuer : Option OrganizationId) (alert : Alert) (event : AlertEvent)
    (h : Alert.createFromCase fresh c policy severity targetGeography fields issuer =
      .ok (alert, event)) : Alert.New c policy issuer alert event := by
  simp only [Alert.createFromCase] at h
  split at h
  · simp at h
  · rename_i verified
    split at h
    · simp at h
    · cases checked : checkFields policy [] fields with
      | error error =>
          rw [checked] at h
          simp [bind, Except.bind] at h
      | ok value =>
          rw [checked] at h
          simp only [bind, Except.bind, pure, Except.pure, Except.ok.injEq, Prod.mk.injEq] at h
          obtain ⟨rfl, rfl⟩ := h
          exact ⟨by simpa using verified, rfl, rfl, rfl, rfl, rfl, rfl, rfl, rfl, rfl⟩

theorem Alert.cancel_ok (fresh : Supply) (alert cancelled : Alert) (event : AlertEvent)
    (h : alert.cancel fresh = .ok (cancelled, event)) :
    alert.status = .active ∧
      cancelled = { alert with status := .cancelled, version := alert.version + 1 } ∧
      event.alertId = alert.id ∧ event.eventType = .alertCancelled ∧
      event.aggregateVersion = alert.version + 1 := by
  simp only [Alert.cancel] at h
  split at h
  · rename_i active
    simp only [Except.ok.injEq, Prod.mk.injEq] at h
    obtain ⟨rfl, rfl⟩ := h
    exact ⟨active, rfl, rfl, rfl, rfl⟩
  · simp at h

theorem checkFields_ok (policy : AlertPolicy) (seen : List AlertField)
    (fields : List AlertFieldValue) (h : checkFields policy seen fields = .ok ()) :
    (∀ value ∈ fields, value.field ∈ policy.fieldAllowlist ∧ value.field ∉ seen) ∧
      (fields.map (·.field)).Nodup := by
  induction fields generalizing seen with
  | nil => exact ⟨fun _ member => absurd member List.not_mem_nil, List.nodup_nil⟩
  | cons value rest ih =>
      simp only [checkFields] at h
      split at h
      · rename_i allowed
        split at h
        · simp at h
        · rename_i unseen
          obtain ⟨others, distinct⟩ := ih _ h
          constructor
          · intro other member
            rcases List.mem_cons.mp member with rfl | inRest
            · exact ⟨of_decide_eq_true allowed, unseen⟩
            · have facts := others other inRest
              exact ⟨facts.1, fun inSeen => facts.2 (List.mem_append_left _ inSeen)⟩
          · rw [List.map_cons, List.nodup_cons]
            refine ⟨fun again => ?_, distinct⟩
            obtain ⟨other, inRest, same⟩ := List.mem_map.mp again
            apply (others other inRest).2
            rw [same]
            exact List.mem_append_right _ List.mem_cons_self
      · simp at h

end SafeCameroon
