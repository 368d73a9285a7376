import SafeCameroon.Library.Text

namespace SafeCameroon

abbrev Uuid := Fin (2 ^ 128)

namespace Uuid

instance : NeZero (2 ^ 128) := ⟨by decide⟩

instance : LawfulBEq Uuid := inferInstance

open Text

def hyphenatedChars (value : Nat) : List Char :=
  hexText 8 (value / 16 ^ 24) ++ '-' :: (hexText 4 (value / 16 ^ 20) ++ '-' ::
    (hexText 4 (value / 16 ^ 16) ++ '-' :: (hexText 4 (value / 16 ^ 12) ++ '-' ::
      hexText 12 value)))

/-- The lower-case hyphenated spelling, which is how an identifier is written everywhere. -/
def display (id : Uuid) : String := String.ofList (hyphenatedChars id.val)

def parseHyphenated (chars : List Char) : Option Nat :=
  if chars.length = 36 ∧ chars[8]? = some '-' ∧ chars[13]? = some '-' ∧ chars[18]? = some '-' ∧
      chars[23]? = some '-' then
    hexNumber (chars.take 8 ++ (chars.drop 9).take 4 ++ (chars.drop 14).take 4 ++
      (chars.drop 19).take 4 ++ chars.drop 24)
  else none

/-- The spellings accepted: simple, hyphenated, in braces, and as a URN. -/
def parseStr (text : String) : Option Uuid :=
  let chars := text.toList
  let value :=
    if chars.length = 32 then hexNumber chars
    else if chars.length = 36 then parseHyphenated chars
    else if chars.head? = some '\x7b' ∧ chars.getLast? = some '\x7d' then
      parseHyphenated (chars.drop 1).dropLast
    else if chars.take 9 = "urn:uuid:".toList then parseHyphenated (chars.drop 9)
    else none
  value.bind fun number => if h : number < 2 ^ 128 then some ⟨number, h⟩ else none

@[simp] theorem hyphenatedChars_length (value : Nat) : (hyphenatedChars value).length = 36 := by
  simp [hyphenatedChars]

theorem parseHyphenated_hyphenatedChars (value : Nat) :
    parseHyphenated (hyphenatedChars value) = hexNumber (hexText 32 value) := by
  have split : hexText 32 value = hexText 8 (value / 16 ^ 24) ++ hexText 4 (value / 16 ^ 20) ++
      hexText 4 (value / 16 ^ 16) ++ hexText 4 (value / 16 ^ 12) ++ hexText 12 value := by
    rw [hexText_append 20 12 value, hexText_append 16 4, hexText_append 12 4, hexText_append 8 4]
    simp only [Nat.div_div_eq_div_mul, ← Nat.pow_add]
  rw [split, parseHyphenated, if_pos]
  · simp [hyphenatedChars, List.drop_append, List.drop_eq_nil_of_le]
  · refine ⟨hyphenatedChars_length value, ?_, ?_, ?_, ?_⟩ <;>
      simp [hyphenatedChars]

theorem parseStr_display (id : Uuid) : parseStr id.display = some id := by
  have digits : hexNumber (hexText 32 id.val) = some id.val :=
    hexNumber_hexText 32 id.val (lt_of_lt_of_eq id.isLt (by decide))
  simp [parseStr, display, parseHyphenated_hyphenatedChars, digits]

theorem display_injective : Function.Injective display := by
  intro first second same
  have parsed := congrArg parseStr same
  rw [parseStr_display, parseStr_display] at parsed
  exact Option.some.inj parsed

end Uuid

end SafeCameroon
