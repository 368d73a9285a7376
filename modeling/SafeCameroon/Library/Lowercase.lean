import SafeCameroon.Library.Text

namespace SafeCameroon.Text

section Trimming

/-- White space neither begins nor ends the text. -/
def Bare (chars : List Char) : Prop :=
  (∀ c ∈ chars.head?, isWhitespace c = false) ∧ ∀ c ∈ chars.getLast?, isWhitespace c = false

theorem trimChars_bare (chars : List Char) (bare : Bare chars) : trimChars chars = chars := by
  have front : chars.dropWhile isWhitespace = chars := by
    cases chars with
    | nil => rfl
    | cons first rest => simp [bare.1 first rfl]
  have back : chars.rdropWhile isWhitespace = chars := by
    rw [List.rdropWhile_eq_self_iff]
    intro some blank
    have visible := bare.2 _ (List.getLast?_eq_some_getLast some)
    rw [visible] at blank
    cases blank
  rw [trimChars, front, back]

theorem bare_of_trimChars (chars : List Char) (same : trimChars chars = chars) : Bare chars := by
  constructor
  · intro c first
    have dropped := trimChars_dropWhile chars
    rw [same] at dropped
    cases chars with
    | nil => cases first
    | cons head rest =>
        obtain rfl : head = c := by simpa using first
        have visible := List.head_dropWhile_not isWhitespace (by simp [dropped] :
          (head :: rest).dropWhile isWhitespace ≠ [])
        simpa only [dropped, List.head_cons] using visible
  · intro c last
    have stripped : chars = (chars.dropWhile isWhitespace).rdropWhile isWhitespace := same.symm
    rw [stripped] at last
    have some : (chars.dropWhile isWhitespace).rdropWhile isWhitespace ≠ [] := by
      intro empty
      rw [empty] at last
      cases last
    have visible := List.rdropWhile_last_not isWhitespace _ some
    rw [List.getLast?_eq_some_getLast some] at last
    obtain rfl : _ = c := by simpa using last
    simpa using visible

theorem bare_between (left middle right : List Char) (first : Bare left) (second : Bare right)
    (front : left ≠ []) (back : right ≠ []) : Bare (left ++ middle ++ right) := by
  constructor
  · intro c head
    apply first.1
    cases left with
    | nil => exact absurd rfl front
    | cons visible rest => exact head
  · intro c last
    apply second.2
    rw [List.getLast?_append_of_ne_nil _ back] at last
    exact last

end Trimming

namespace UnicodeData

variable (data : UnicodeData)

/-- A character that no final sigma looks past and that is no letter for it. -/
structure Separates (c : Char) : Prop where
  uncased : data.isCased c = false
  visible : data.isCaseIgnorable c = false

/-- What follows tells as little about the end of a word as the end of the text. -/
def Closed (context : List Char) : Prop := ∀ c ∈ context.head?, data.Separates c

theorem dropWhile_closed (chars context : List Char) (closed : data.Closed context) :
    (match (chars ++ context).dropWhile data.isCaseIgnorable with
      | [] => false
      | c :: _ => data.isCased c) =
    (match chars.dropWhile data.isCaseIgnorable with
      | [] => false
      | c :: _ => data.isCased c) := by
  induction chars with
  | nil =>
      cases context with
      | nil => rfl
      | cons c rest =>
          have separates := closed c rfl
          simp [separates.visible, separates.uncased]
  | cons c rest ih =>
      cases ignorable : data.isCaseIgnorable c with
      | true => simpa [List.dropWhile_cons, ignorable] using ih
      | false => simp [ignorable]

theorem isFinal_closed (done rest before after : List Char) (left : data.Closed before)
    (right : data.Closed after) :
    data.isFinal (done ++ before) (rest ++ after) = data.isFinal done rest := by
  have front := data.dropWhile_closed done before left
  have back := data.dropWhile_closed rest after right
  exact congrArg₂ (fun earlier later => earlier && !later) front back

theorem lowerChars_within (done chars before after : List Char) (left : data.Closed before)
    (right : data.Closed after) :
    data.lowerChars (done ++ before) (chars ++ after) =
      data.lowerChars done chars ++ data.lowerChars (chars.reverse ++ done ++ before) after := by
  induction chars generalizing done with
  | nil => rfl
  | cons c rest ih =>
      have final := data.isFinal_closed done rest before after left right
      have others := ih (c :: done)
      simp only [List.cons_append, lowerChars, final] at others ⊢
      rw [others]
      simp

theorem lowerChars_behind (before front rest : List Char) : ∃ lowered,
    data.lowerChars before (front ++ rest) =
      lowered ++ data.lowerChars (front.reverse ++ before) rest := by
  induction front generalizing before with
  | nil => exact ⟨[], rfl⟩
  | cons c front ih =>
      obtain ⟨lowered, same⟩ := ih (c :: before)
      refine ⟨(if c = 'Σ' then (if data.isFinal before (front ++ rest) then ['ς'] else ['σ'])
        else data.lower c) ++ lowered, ?_⟩
      rw [List.cons_append, lowerChars, same, List.append_assoc]
      simp

theorem lowerChars_infix (front word back : List Char) (left : data.Closed front.reverse)
    (right : data.Closed back) :
    data.lowerChars [] word <:+: data.lowerChars [] (front ++ word ++ back) := by
  obtain ⟨lowered, whole⟩ := data.lowerChars_behind [] front (word ++ back)
  have inner := data.lowerChars_within [] word front.reverse back left right
  simp only [List.nil_append, List.append_nil] at whole inner
  rw [List.append_assoc, whole, inner]
  exact ⟨lowered, _, by rw [List.append_assoc]⟩

end UnicodeData

end SafeCameroon.Text
