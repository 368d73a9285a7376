import SafeCameroon.Application.Channel
import SafeCameroon.Postgres.Alerts

namespace SafeCameroon

open Text

def prefersFrench (unicode : UnicodeData) (recipientLocale : Option String) : Bool :=
  match recipientLocale with
  | some value => startsWith (unicode.toLowercase (trim value)) "fr"
  | none => false

def descriptionFields (french : Bool) : List AlertField :=
  if french then [.safeDescriptionFr, .safeDescriptionEn, .safeDescription]
  else [.safeDescriptionEn, .safeDescriptionFr, .safeDescription]

/-- A text of the alert that would tell a recipient what happened. -/
structure Describes (alert : Alert) (value : String) : Prop where
  present : ∃ french, ∃ field ∈ descriptionFields french, alert.fieldValue field = some value
  visible : trim value ≠ ""

def undescribedBody (alert : Alert) : String :=
  "[" ++ severityLabel alert.severity ++ "] " ++ alert.targetGeography.text ++
  (match alert.fieldValue .officialContact with
    | some contact => "\n\nContact: " ++ contact
    | none => "") ++
  (match alert.fieldValue .caseReference with
    | some reference => "\nRef: " ++ reference
    | none => "")

variable (unicode : UnicodeData) (alert : Alert) (delivery : Delivery) (recipientLocale : Option String)

theorem descriptionForLocale_first :
    alert.descriptionForLocale unicode recipientLocale =
      (descriptionFields (prefersFrench unicode recipientLocale)).findSome? alert.fieldValue := by
  have order : ∀ first second third : AlertField,
      [first, second, third].findSome? alert.fieldValue =
        (alert.fieldValue first).or ((alert.fieldValue second).or (alert.fieldValue third)) := by
    intro first second third
    cases one : alert.fieldValue first with
    | some value => simp [one]
    | none =>
        cases two : alert.fieldValue second with
        | some value => simp [one, two]
        | none => cases three : alert.fieldValue third <;> simp [one, two, three]
  -- The equation lemma of the definition takes long to generate, so it is unfolded without one.
  delta Alert.descriptionForLocale
  cases recipientLocale with
  | none =>
      dsimp only
      rw [if_neg Bool.false_ne_true]
      exact (order .safeDescriptionEn .safeDescriptionFr .safeDescription).symm
  | some value =>
      dsimp only
      cases flag : startsWith (unicode.toLowercase (trim value)) "fr" with
      | true =>
          have french : prefersFrench unicode (some value) = true := flag
          rw [if_pos rfl, french]
          exact (order .safeDescriptionFr .safeDescriptionEn .safeDescription).symm
      | false =>
          have french : prefersFrench unicode (some value) = false := flag
          rw [if_neg Bool.false_ne_true, french]
          exact (order .safeDescriptionEn .safeDescriptionFr .safeDescription).symm

theorem body_of_visible (value : String) (visible : trim value ≠ "")
    (first : alert.descriptionForLocale unicode recipientLocale = some value) :
    contains (buildOutboundMessage unicode alert delivery recipientLocale).body value = true := by
  have quoted : ∀ front back : String, contains (front ++ ("\n\n" ++ value) ++ back) value = true := by
    intro front back
    simp only [contains, decide_eq_true_eq, String.toList_append]
    exact ⟨front.toList ++ "\n\n".toList, back.toList, by simp⟩
  simp only [buildOutboundMessage, first, visible, if_false]
  rw [String.append_assoc]
  exact quoted _ _

theorem body_of_hidden (hidden : ∀ value,
      alert.descriptionForLocale unicode recipientLocale = some value → trim value = "") :
    (buildOutboundMessage unicode alert delivery recipientLocale).body = undescribedBody alert := by
  cases first : alert.descriptionForLocale unicode recipientLocale with
  | none =>
      simp only [buildOutboundMessage, first, String.append_empty]
      rfl
  | some value =>
      simp only [buildOutboundMessage, first, hidden value first, if_true,
        String.append_empty]
      rfl

/-- A description reaches the recipient exactly when the first of the fields is not blank, unless the
rest of the message happens to spell one. -/
theorem message_described_iff :
    (∃ value, Describes alert value ∧
        contains (buildOutboundMessage unicode alert delivery recipientLocale).body value = true) ↔
      (∃ value, (descriptionFields (prefersFrench unicode recipientLocale)).findSome?
          alert.fieldValue = some value ∧ trim value ≠ "") ∨
        ∃ value, Describes alert value ∧ contains (undescribedBody alert) value = true := by
  have first := descriptionForLocale_first unicode alert recipientLocale
  by_cases shown : ∃ value, alert.descriptionForLocale unicode recipientLocale = some value ∧
      trim value ≠ ""
  · have described : ∃ value, Describes alert value ∧
        contains (buildOutboundMessage unicode alert delivery recipientLocale).body value = true := by
      obtain ⟨value, taken, visible⟩ := shown
      obtain ⟨field, offered, present⟩ := List.exists_of_findSome?_eq_some (first.symm.trans taken)
      exact ⟨value, { present := ⟨_, field, offered, present⟩, visible },
        body_of_visible unicode alert delivery recipientLocale value visible taken⟩
    rw [first] at shown
    exact iff_of_true described (Or.inl shown)
  · have hidden : ∀ value, alert.descriptionForLocale unicode recipientLocale = some value →
        trim value = "" := by
      intro value taken
      by_contra visible
      exact shown ⟨value, taken, visible⟩
    rw [first] at shown
    rw [body_of_hidden unicode alert delivery recipientLocale hidden]
    constructor
    · exact Or.inr
    · intro either
      exact either.resolve_left shown

/-- The English text was left as a tabulator, which the check of the column takes for a text. -/
def tabbedFields : List AlertFieldValue :=
  [{ field := .safeDescriptionEn, value := "\t" },
   { field := .safeDescriptionFr, value := "Fillette de six ans" }]

def tabbedAlert : Alert :=
  { id := ⟨10⟩, caseId := ⟨1⟩, policyId := "MISSING_CHILD_COMMUNITY", policyVersion := 1
    incidentType := .missingChild, severity := .high, visibility := .community
    trigger := .caseVerified
    targetGeography := { text := "Douala", trimmed := TargetGeography.douala_trimmed
                         nonblank := TargetGeography.douala_nonblank }
    status := .active, fields := tabbedFields, version := 1, issuedByOrganizationId := none }

theorem message_not_described :
    (∃ creation stored, creation.alert = tabbedAlert ∧
      createAlertFromCase (fun _ => []) (fun index => Fin.ofNat _ (10 + index))
        { id := ⟨1⟩, incidentType := .missingChild, status := .verified, reportIds := [], version := 3 }
        .missingChildCommunityV1 .high tabbedAlert.targetGeography tabbedFields (.reviewer 6) 9 none
        none = .ok creation ∧
      PostgresAlertRepository.create 0 creation { Db.empty with cases :=
        [{ id := ⟨1⟩, incidentType := .missingChild, status := .verified, aggregateVersion := 3 }] } =
          .ok (.commit .created stored)) ∧
    Describes tabbedAlert "Fillette de six ans" ∧
    ∀ unicode delivery value, Describes tabbedAlert value →
      contains (buildOutboundMessage unicode tabbedAlert delivery none).body value = false := by
  refine ⟨⟨_, _, ?_, rfl, rfl⟩, ?_, ?_⟩
  · rfl
  · exact { present := ⟨true, .safeDescriptionFr, by decide, by decide⟩, visible := by decide }
  · intro unicode delivery value described
    have hidden : ∀ value, tabbedAlert.descriptionForLocale unicode none = some value →
        trim value = "" := by
      intro value taken
      rw [descriptionForLocale_first] at taken
      have tab : value = "\t" := (Option.some.inj taken).symm
      rw [tab]
      decide
    rw [body_of_hidden unicode tabbedAlert delivery none hidden]
    have french : value = "Fillette de six ans" := by
      have texts : ∀ french, ∀ field ∈ descriptionFields french,
          ∀ text ∈ tabbedAlert.fieldValue field, text = "\t" ∨ text = "Fillette de six ans" := by
        decide
      obtain ⟨⟨french, field, offered, present⟩, visible⟩ := described
      apply (texts french field offered value present).resolve_left
      intro tab
      rw [tab] at visible
      exact visible (by decide)
    rw [french]
    decide

end SafeCameroon
