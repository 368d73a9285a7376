import SafeCameroon.Application.Channel
import SafeCameroon.Infrastructure.Resend

namespace SafeCameroon

open Text

def messageDetails (unicode : UnicodeData) (alert : Alert) (recipientLocale : Option String) : String :=
  (match alert.descriptionForLocale unicode recipientLocale with
    | some description => if trim description = "" then "" else "\n\n" ++ description
    | none => "") ++
  (match alert.fieldValue .officialContact with
    | some contact => "\n\nContact: " ++ contact
    | none => "") ++
  (match alert.fieldValue .caseReference with
    | some reference => "\nRef: " ++ reference
    | none => "")

variable (unicode : UnicodeData) (alert : Alert) (delivery : Delivery) (recipientLocale : Option String)

theorem buildOutboundMessage_body :
    (buildOutboundMessage unicode alert delivery recipientLocale).body =
      "[" ++ severityLabel alert.severity ++ "] " ++ alert.targetGeography.text ++
        messageDetails unicode alert recipientLocale := by
  have regroup : ∀ header first second third : String,
      header ++ first ++ second ++ third = header ++ (first ++ second ++ third) := by
    intro header first second third
    simp only [String.append_assoc]
  exact regroup _ _ _ _

theorem messageDetails_newline :
    messageDetails unicode alert recipientLocale = "" ∨ ∃ rest,
      (messageDetails unicode alert recipientLocale).toList = '\n' :: rest := by
  have pieces : ∀ first second third : String,
      (first = "" ∨ ∃ rest, first.toList = '\n' :: rest) →
      (second = "" ∨ ∃ rest, second.toList = '\n' :: rest) →
      (third = "" ∨ ∃ rest, third.toList = '\n' :: rest) →
      first ++ second ++ third = "" ∨ ∃ rest, (first ++ second ++ third).toList = '\n' :: rest := by
    intro first second third one two three
    rcases one with rfl | ⟨rest, spelled⟩
    · rcases two with rfl | ⟨rest, spelled⟩
      · simpa using three
      · exact Or.inr ⟨rest ++ third.toList, by simp [spelled]⟩
    · exact Or.inr ⟨rest ++ second.toList ++ third.toList, by simp [spelled]⟩
  unfold messageDetails
  apply pieces
  · split
    · split
      · exact Or.inl rfl
      · rename_i description _ _
        exact Or.inr ⟨'\n' :: description.toList, by simp⟩
    · exact Or.inl rfl
  · split
    · rename_i contact _
      exact Or.inr ⟨"\nContact: ".toList ++ contact.toList, by simp⟩
    · exact Or.inl rfl
  · split
    · rename_i reference _
      exact Or.inr ⟨"Ref: ".toList ++ reference.toList, by simp⟩
    · exact Or.inl rfl

theorem severityLabel_plain (severity : Severity) :
    '\n' ∉ (severityLabel severity).toList ∧ ']' ∉ (severityLabel severity).toList := by
  cases severity <;> decide

namespace ResendEmailChannel

theorem parseHeader_header (severity : Severity) (geography : String) :
    parseHeader ("[" ++ severityLabel severity ++ "] " ++ geography) =
      (some (severityLabel severity), geography) := by
  have spelled : ("[" ++ severityLabel severity ++ "] " ++ geography).toList =
      '[' :: ((severityLabel severity).toList ++ [']', ' '] ++ geography.toList) := by
    simp
  have split := splitOnce_append ']' [' '] (severityLabel severity).toList geography.toList
    (severityLabel_plain severity).2
  simp only [parseHeader, spelled, split, String.ofList_toList]

theorem trim_dropNewlines (chars : List Char) :
    trim (String.ofList (chars.dropWhile (· = '\n'))) = trim (String.ofList ('\n' :: chars)) := by
  have blank : ∀ chars : List Char,
      (chars.dropWhile (· = '\n')).dropWhile isWhitespace = chars.dropWhile isWhitespace := by
    intro chars
    induction chars with
    | nil => rfl
    | cons c rest ih =>
        by_cases newline : c = '\n'
        · subst newline
          have white : isWhitespace '\n' = true := by decide
          rw [List.dropWhile_cons_of_pos (by simp), ih, List.dropWhile_cons_of_pos white]
        · rw [List.dropWhile_cons_of_neg (by simpa using newline)]
  have white : isWhitespace '\n' = true := by decide
  simp only [trim, trimChars, String.toList_ofList, blank]
  rw [List.dropWhile_cons_of_pos white]

/-- What the renderer takes out of the message of an alert is what was put into it. -/
structure Recovered (unicode : UnicodeData) (alert : Alert) (delivery : Delivery)
    (recipientLocale : Option String) : Prop where
  header : parseHeader (splitHeader
      (buildOutboundMessage unicode alert delivery recipientLocale).body).1 =
    (some (severityLabel alert.severity), alert.targetGeography.text)
  rest : trim (splitHeader (buildOutboundMessage unicode alert delivery recipientLocale).body).2 =
    trim (messageDetails unicode alert recipientLocale)

theorem recovered_of_line (line : '\n' ∉ alert.targetGeography.text.toList) :
    Recovered unicode alert delivery recipientLocale := by
  have label := (severityLabel_plain alert.severity).1
  have plain : '\n' ∉ ("[" ++ severityLabel alert.severity ++ "] " ++
      alert.targetGeography.text).toList := by
    simp [label, line]
  have body := buildOutboundMessage_body unicode alert delivery recipientLocale
  rcases messageDetails_newline unicode alert recipientLocale with none | ⟨tail, spelled⟩
  · rw [none, String.append_empty] at body
    have split : splitHeader (buildOutboundMessage unicode alert delivery recipientLocale).body =
        ((buildOutboundMessage unicode alert delivery recipientLocale).body, "") := by
      rw [body, splitHeader, splitOnce_absent '\n' [] _ plain]
    constructor
    · rw [split, body]
      exact parseHeader_header alert.severity alert.targetGeography.text
    · rw [split, none]
  · have split : splitHeader (buildOutboundMessage unicode alert delivery recipientLocale).body =
        ("[" ++ severityLabel alert.severity ++ "] " ++ alert.targetGeography.text,
          String.ofList (tail.dropWhile (· = '\n'))) := by
      have parts := splitOnce_append '\n' [] ("[" ++ severityLabel alert.severity ++ "] " ++
        alert.targetGeography.text).toList tail plain
      rw [List.append_assoc, List.singleton_append, ← spelled, ← String.toList_append] at parts
      rw [body, splitHeader, parts]
      dsimp only
      rw [String.ofList_toList]
    constructor
    · rw [split]
      exact parseHeader_header alert.severity alert.targetGeography.text
    · rw [split]
      calc trim (String.ofList (tail.dropWhile (· = '\n')))
          = trim (String.ofList ('\n' :: tail)) := trim_dropNewlines tail
        _ = trim (messageDetails unicode alert recipientLocale) := by
          rw [← spelled, String.ofList_toList]

theorem header_first_line (front back : List Char) (line : '\n' ∉ front)
    (spelled : alert.targetGeography.text.toList = front ++ '\n' :: back) :
    parseHeader (splitHeader
        (buildOutboundMessage unicode alert delivery recipientLocale).body).1 =
      (some (severityLabel alert.severity), String.ofList front) := by
  have label := (severityLabel_plain alert.severity).1
  have plain : '\n' ∉ ("[" ++ severityLabel alert.severity ++ "] " ++ String.ofList front).toList := by
    simp [label, line]
  have parts := splitOnce_append '\n' [] ("[" ++ severityLabel alert.severity ++ "] " ++
    String.ofList front).toList (back ++ (messageDetails unicode alert recipientLocale).toList) plain
  have whole : (buildOutboundMessage unicode alert delivery recipientLocale).body.toList =
      ("[" ++ severityLabel alert.severity ++ "] " ++ String.ofList front).toList ++ ['\n'] ++
        (back ++ (messageDetails unicode alert recipientLocale).toList) := by
    rw [buildOutboundMessage_body]
    simp [spelled]
  rw [splitHeader, whole, parts]
  dsimp only
  rw [String.ofList_toList]
  exact parseHeader_header alert.severity (String.ofList front)

/-- The renderer recovers what the message builder wrote exactly when the area is on one line. -/
theorem message_recovered_iff :
    Recovered unicode alert delivery recipientLocale ↔
      '\n' ∉ alert.targetGeography.text.toList := by
  constructor
  · intro recovered several
    obtain ⟨front, back, spelled, line⟩ := List.eq_append_cons_of_mem several
    have first := header_first_line unicode alert delivery recipientLocale front back line spelled
    have same : String.ofList front = alert.targetGeography.text :=
      (Prod.mk.inj (first.symm.trans recovered.header)).2
    rw [← same, String.toList_ofList] at several
    exact line several
  · exact recovered_of_line unicode alert delivery recipientLocale

/-- An area that a console may send: the name of a town and, on the next line, of a part of it. -/
def twoLines : TargetGeography :=
  { text := "Douala\nBonanjo", trimmed := by decide, nonblank := by decide }

/-- The alert of a case in that area, as a policy of the community builds it. -/
def twoLineAlert : Alert :=
  { id := ⟨1⟩, caseId := ⟨1⟩, policyId := "missing-child-community", policyVersion := 1
    incidentType := .missingChild, severity := .high, visibility := .community
    trigger := .caseVerified, targetGeography := twoLines, status := .active, fields := []
    version := 1, issuedByOrganizationId := none }

theorem message_not_recovered :
    TargetGeography.new "Douala\nBonanjo" = .ok twoLines ∧
      ∀ unicode delivery recipientLocale,
        parseHeader (splitHeader
            (buildOutboundMessage unicode twoLineAlert delivery recipientLocale).body).1 =
              (some "High", "Douala") ∧
          ¬ Recovered unicode twoLineAlert delivery recipientLocale := by
  constructor
  · exact TargetGeography.new_text twoLines
  · intro unicode delivery recipientLocale
    have first : parseHeader (splitHeader
        (buildOutboundMessage unicode twoLineAlert delivery recipientLocale).body).1 =
          (some "High", "Douala") := by
      exact header_first_line unicode twoLineAlert delivery recipientLocale "Douala".toList
        "Bonanjo".toList (by decide) (by decide)
    apply And.intro first
    intro recovered
    have same := (Prod.mk.inj (first.symm.trans recovered.header)).2
    exact absurd same (by decide)

end ResendEmailChannel

end SafeCameroon
