import SafeCameroon.Library.Text

namespace SafeCameroon.Numeral

open Text

def parseU64 (text : List Char) : Option Nat :=
  let digits := match text with
    | '+' :: rest => rest
    | chars => chars
  let value := Nat.ofDigitChars 10 digits 0
  if digits ≠ [] ∧ digits.all Char.isDigit ∧ value < 2 ^ 64 then some value else none

theorem parseU64_toDigits (value : Nat) (h : value < 2 ^ 64) :
    parseU64 (Nat.toDigits 10 value) = some value := by
  have digits : ∀ c ∈ Nat.toDigits 10 value, c.isDigit = true :=
    fun c member => Nat.isDigit_of_mem_toDigits (by decide) (by decide) member
  have unsigned : (match Nat.toDigits 10 value with
      | '+' :: rest => rest
      | chars => chars) = Nat.toDigits 10 value := by
    split
    · rename_i rest spelled
      have plus := digits '+' (by simp [spelled])
      exact absurd plus (by decide)
    · rfl
  simp only [parseU64, unsigned, Nat.ofDigitChars_ten_toDigits]
  rw [if_pos ⟨Nat.toDigits_ne_nil, List.all_eq_true.mpr digits, h⟩]

theorem toDigits_injective : Function.Injective (Nat.toDigits 10) := by
  intro first second same
  have values := congrArg (fun digits => Nat.ofDigitChars 10 digits 0) same
  simpa only [Nat.ofDigitChars_ten_toDigits] using values

def parseHexByte (first second : Char) : Option UInt8 :=
  if first = '+' then (hexValue second).map UInt8.ofNat
  else (hexValue first).bind fun high => (hexValue second).map fun low =>
    UInt8.ofNat (16 * high + low)

/-- The message of the panic of a slice that would cut a character. -/
def boundary : String := "byte index is not a char boundary"

def readPairs : List Char → Except String (Option (List UInt8))
  | [] => .ok (some [])
  | [first] => if first.utf8Size = 2 then .ok none else .error boundary
  | first :: second :: rest =>
      -- One character of two bytes makes a slice of its own, which is no number.
      if first.utf8Size = 2 then .ok none
      else if first.utf8Size = 1 ∧ second.utf8Size = 1 then
        match parseHexByte first second with
        | none => .ok none
        | some byte => (readPairs rest).map (Option.map (byte :: ·))
      else .error boundary

/-- Two digits for each byte, in lower case. -/
def encodeHex (bytes : List UInt8) : List Char := bytes.flatMap fun byte => hexText 2 byte.toNat

def decodeHex (text : List Char) : Except String (Option (List UInt8)) :=
  if (text.map Char.utf8Size).sum % 2 ≠ 0 then .ok none else readPairs text

theorem readPairs_ascii (text : List Char) (ascii : ∀ c ∈ text, c.utf8Size = 1)
    (even : text.length % 2 = 0) : ∃ result, readPairs text = .ok result := by
  induction text using readPairs.induct with
  | case1 => exact ⟨_, rfl⟩
  | case2 first wide => exact ⟨none, by simp [readPairs, wide]⟩
  | case3 first wide => simp at even
  | case4 first second rest wide => exact ⟨none, by simp [readPairs, wide]⟩
  | case5 first second rest wide narrow unread =>
      exact ⟨none, by simp [readPairs, narrow, unread]⟩
  | case6 first second rest wide narrow byte read ih =>
      have shorter : rest.length % 2 = 0 := by
        simp only [List.length_cons] at even
        omega
      obtain ⟨result, later⟩ := ih (fun c member => ascii c (by simp [member])) shorter
      exact ⟨result.map (byte :: ·), by simp [readPairs, narrow, read, later, Except.map]⟩
  | case7 first second rest wide narrow =>
      exact absurd ⟨ascii first (by simp), ascii second (by simp)⟩ narrow

theorem decodeHex_ascii (text : List Char) (ascii : ∀ c ∈ text, c.utf8Size = 1) :
    ∃ result, decodeHex text = .ok result := by
  have size : (text.map Char.utf8Size).sum = text.length := by
    have ones : text.map Char.utf8Size = text.map fun _ => 1 := List.map_congr_left ascii
    simp [ones]
  by_cases odd : text.length % 2 ≠ 0
  · exact ⟨none, by simp [decodeHex, size, odd]⟩
  · have even : text.length % 2 = 0 := by omega
    obtain ⟨result, read⟩ := readPairs_ascii text ascii even
    exact ⟨result, by simp [decodeHex, size, even, read]⟩

theorem hexDigit_ascii (value : Nat) (h : value < 16) :
    (hexDigit value).utf8Size = 1 ∧ hexDigit value ≠ '+' ∧ hexDigit value ≠ '.' := by
  have table : ∀ small : Fin 16, (hexDigit small).utf8Size = 1 ∧ hexDigit small ≠ '+' ∧
      hexDigit small ≠ '.' := by decide
  exact table ⟨value, h⟩

theorem hexText_two (byte : UInt8) :
    hexText 2 byte.toNat = [hexDigit (byte.toNat / 16), hexDigit (byte.toNat % 16)] := by
  have small := byte.toNat_lt
  have high : byte.toNat / 16 % 16 = byte.toNat / 16 := Nat.mod_eq_of_lt (by omega)
  simp [hexText, high]

theorem parseHexByte_hexText (byte : UInt8) :
    parseHexByte (hexDigit (byte.toNat / 16)) (hexDigit (byte.toNat % 16)) = some byte := by
  have small := byte.toNat_lt
  have high : byte.toNat / 16 < 16 := by omega
  have low : byte.toNat % 16 < 16 := by omega
  rw [parseHexByte, if_neg (hexDigit_ascii _ high).2.1, hexValue_hexDigit _ high,
    hexValue_hexDigit _ low]
  have whole : 16 * (byte.toNat / 16) + byte.toNat % 16 = byte.toNat := by omega
  simp only [Option.bind_some, Option.map_some, whole, UInt8.ofNat_toNat]

theorem decodeHex_encodeHex (bytes : List UInt8) : decodeHex (encodeHex bytes) = .ok (some bytes) := by
  have read : readPairs (encodeHex bytes) = .ok (some bytes) ∧
      ((encodeHex bytes).map Char.utf8Size).sum % 2 = 0 := by
    induction bytes with
    | nil => exact ⟨rfl, rfl⟩
    | cons byte bytes ih =>
        have small := byte.toNat_lt
        have high := hexDigit_ascii (byte.toNat / 16) (by omega)
        have low := hexDigit_ascii (byte.toNat % 16) (by omega)
        have spelled : encodeHex (byte :: bytes) =
            hexDigit (byte.toNat / 16) :: hexDigit (byte.toNat % 16) :: encodeHex bytes := by
          simp [encodeHex, hexText_two]
        rw [spelled]
        constructor
        · simp [readPairs, high.1, low.1, parseHexByte_hexText, ih.1, Except.map]
        · have earlier := ih.2
          simp only [List.map_cons, List.sum_cons, high.1, low.1]
          omega
  simp [decodeHex, read.1, read.2]

section Exactness

/-- The text spells the bytes, with two digits in base sixteen for each. -/
inductive Spells : List Char → List UInt8 → Prop where
  | nil : Spells [] []
  | cons {first second : Char} {rest : List Char} {high low : Nat} {bytes : List UInt8}
      (left : hexValue first = some high) (right : hexValue second = some low)
      (later : Spells rest bytes) :
      Spells (first :: second :: rest) (UInt8.ofNat (16 * high + low) :: bytes)

def leadingPairs : List Char → List Char × List Char
  | first :: second :: rest =>
      if (parseHexByte first second).isSome then
        (first :: second :: (leadingPairs rest).1, (leadingPairs rest).2)
      else ([], first :: second :: rest)
  | short => ([], short)

/-- Two bytes of text end within a character. -/
def cutsCharacter : List Char → Bool
  | [] => false
  | [first] => first.utf8Size ≠ 2
  | first :: second :: _ =>
      first.utf8Size ≠ 2 && !(first.utf8Size = 1 && second.utf8Size = 1)

/-- Where decoding has nothing to get wrong: a text of an odd number of bytes; pairs that parse as
bytes to its end, none with a plus sign; or such pairs and then two bytes of whole characters. -/
def PlainlyHex (text : List Char) : Prop :=
  (text.map Char.utf8Size).sum % 2 = 1 ∨
    ((leadingPairs text).2 = [] ∧ '+' ∉ (leadingPairs text).1) ∨
    ((leadingPairs text).2 ≠ [] ∧ cutsCharacter (leadingPairs text).2 = false)

theorem hexValue_single {c : Char} {digit : Nat} (read : hexValue c = some digit) :
    c.utf8Size = 1 ∧ c ≠ '+' := by
  have bounds : 48 ≤ c.toNat ∧ c.toNat ≤ 102 := by
    unfold hexValue at read
    split_ifs at read with decimal lower upper
    · have low : 48 ≤ c.toNat := decimal.1
      have high : c.toNat ≤ 57 := decimal.2
      omega
    · have low : 97 ≤ c.toNat := lower.1
      have high : c.toNat ≤ 102 := lower.2
      omega
    · have low : 65 ≤ c.toNat := upper.1
      have high : c.toNat ≤ 70 := upper.2
      omega
  constructor
  · have small : c.toNat ≤ 127 := by omega
    exact Char.utf8Size_eq_one_iff.mpr small
  · intro plus
    rw [plus] at bounds
    exact absurd bounds.1 (by decide)

theorem parseHexByte_single {first second : Char} {byte : UInt8}
    (read : parseHexByte first second = some byte) :
    first.utf8Size = 1 ∧ second.utf8Size = 1 ∧ second ≠ '+' := by
  unfold parseHexByte at read
  split_ifs at read with plus
  · obtain ⟨low, digit, _⟩ := Option.map_eq_some_iff.mp read
    exact ⟨by rw [plus]; decide, hexValue_single digit⟩
  · obtain ⟨high, digit, rest⟩ := Option.bind_eq_some_iff.mp read
    obtain ⟨low, digit', _⟩ := Option.map_eq_some_iff.mp rest
    exact ⟨(hexValue_single digit).1, hexValue_single digit'⟩

theorem leadingPairs_append (text : List Char) :
    (leadingPairs text).1 ++ (leadingPairs text).2 = text := by
  induction text using leadingPairs.induct with
  | case1 first second rest read ih =>
      rw [leadingPairs, if_pos read, List.cons_append, List.cons_append, ih]
  | case2 first second rest unread => rw [leadingPairs, if_neg unread, List.nil_append]
  | case3 short lone =>
      rw [leadingPairs]
      · exact List.nil_append short
      · exact lone

theorem readPairs_leading (text : List Char) :
    ((leadingPairs text).2 = [] → ∃ bytes, readPairs text = .ok (some bytes)) ∧
      ((leadingPairs text).2 ≠ [] → readPairs text =
        if cutsCharacter (leadingPairs text).2 then .error boundary else .ok none) := by
  induction text using leadingPairs.induct with
  | case1 first second rest read ih =>
      obtain ⟨byte, parsed⟩ := Option.isSome_iff_exists.mp read
      have single := parseHexByte_single parsed
      have step : readPairs (first :: second :: rest) =
          (readPairs rest).map (Option.map (byte :: ·)) := by
        simp [readPairs, single.1, single.2.1, parsed]
      rw [leadingPairs, if_pos read, step]
      constructor
      · intro whole
        obtain ⟨bytes, later⟩ := ih.1 whole
        exact ⟨byte :: bytes, by rw [later]; rfl⟩
      · intro stopped
        rw [ih.2 stopped]
        split
        · rfl
        · rfl
  | case2 first second rest unread =>
      rw [leadingPairs, if_neg unread]
      constructor
      · intro whole
        cases whole
      · intro _
        have none_read : parseHexByte first second = none := by simpa using unread
        by_cases wide : first.utf8Size = 2
        · simp [readPairs, cutsCharacter, wide]
        · by_cases narrow : first.utf8Size = 1 ∧ second.utf8Size = 1
          · simp [readPairs, cutsCharacter, narrow, none_read]
          · simp only [readPairs, cutsCharacter, wide, narrow, if_false]
            simp [wide, narrow]
  | case3 short lone =>
      match short with
      | [] => exact ⟨fun _ => ⟨[], rfl⟩, fun stopped => absurd rfl stopped⟩
      | [first] =>
          constructor
          · intro whole
            cases whole
          · intro _
            by_cases wide : first.utf8Size = 2
            · simp [readPairs, leadingPairs, cutsCharacter, wide]
            · simp [readPairs, leadingPairs, cutsCharacter, wide]
      | first :: second :: rest => exact absurd rfl (lone first second rest)

theorem spells_of_readPairs (text : List Char) (bytes : List UInt8)
    (read : readPairs text = .ok (some bytes)) (unsigned : '+' ∉ text) : Spells text bytes := by
  induction text using readPairs.induct generalizing bytes with
  | case1 =>
      cases read
      exact .nil
  | case2 first wide => simp [readPairs, wide] at read
  | case3 first wide => simp [readPairs, wide] at read
  | case4 first second rest wide => simp [readPairs, wide] at read
  | case5 first second rest wide narrow unread => simp [readPairs, narrow, unread] at read
  | case6 first second rest wide narrow byte parsed ih =>
      simp only [List.mem_cons, not_or] at unsigned
      simp only [readPairs, narrow, and_self, if_true, parsed] at read
      cases later : readPairs rest with
      | error message =>
          rw [later] at read
          cases read
      | ok result =>
          cases result with
          | none =>
              rw [later] at read
              cases read
          | some others =>
              rw [later] at read
              cases read
              rw [parseHexByte, if_neg (Ne.symm unsigned.1)] at parsed
              obtain ⟨high, left, rest'⟩ := Option.bind_eq_some_iff.mp parsed
              obtain ⟨low, right, rfl⟩ := Option.map_eq_some_iff.mp rest'
              exact .cons left right (ih others later unsigned.2.2)
  | case7 first second rest wide narrow => simp [readPairs, wide, narrow] at read

theorem Spells.read {text : List Char} {bytes : List UInt8} (spells : Spells text bytes) :
    readPairs text = .ok (some bytes) ∧ (text.map Char.utf8Size).sum % 2 = 0 ∧ '+' ∉ text := by
  induction spells with
  | nil => exact ⟨rfl, rfl, List.not_mem_nil⟩
  | @cons first second rest high low bytes left right later ih =>
      obtain ⟨narrow, unsigned⟩ := hexValue_single left
      obtain ⟨narrow', unsigned'⟩ := hexValue_single right
      have parsed : parseHexByte first second = some (UInt8.ofNat (16 * high + low)) := by
        simp [parseHexByte, unsigned, left, right]
      refine ⟨?_, ?_, ?_⟩
      · simp [readPairs, narrow, narrow', parsed, ih.1, Except.map]
      · have even := ih.2.1
        simp only [List.map_cons, List.sum_cons, narrow, narrow']
        omega
      · simp [unsigned.symm, unsigned'.symm, ih.2.2]

/-- Decoding neither panics nor takes any text but what spells its result. -/
def DecodesExactly (text : List Char) : Prop :=
  ∃ result, decodeHex text = .ok result ∧ ∀ bytes, result = some bytes ↔ Spells text bytes

theorem decodesExactly_odd (text : List Char) (odd : (text.map Char.utf8Size).sum % 2 = 1) :
    DecodesExactly text := by
  refine ⟨none, by simp [decodeHex, odd], ?_⟩
  intro bytes
  constructor
  · intro same
    cases same
  · intro spells
    have even := spells.read.2.1
    omega

theorem decodeHex_even {text : List Char} (even : (text.map Char.utf8Size).sum % 2 ≠ 1) :
    decodeHex text = readPairs text := by
  rw [decodeHex, if_neg (by omega)]

theorem decodesExactly_whole (text : List Char) (whole : (leadingPairs text).2 = [])
    (even : (text.map Char.utf8Size).sum % 2 ≠ 1) :
    DecodesExactly text ↔ '+' ∉ (leadingPairs text).1 := by
  have all : (leadingPairs text).1 = text := by
    have joined := leadingPairs_append text
    rw [whole, List.append_nil] at joined
    exact joined
  obtain ⟨bytes, read⟩ := (readPairs_leading text).1 whole
  rw [DecodesExactly, decodeHex_even even, read, all]
  constructor
  · intro ⟨result, same, exact⟩
    cases same
    exact ((exact bytes).mp rfl).read.2.2
  · intro unsigned
    refine ⟨some bytes, rfl, ?_⟩
    intro other
    constructor
    · intro same
      cases same
      exact spells_of_readPairs text bytes read unsigned
    · intro spells
      have again := spells.read.1
      rw [read] at again
      injection again

theorem decodesExactly_stopped (text : List Char) (stopped : (leadingPairs text).2 ≠ [])
    (even : (text.map Char.utf8Size).sum % 2 ≠ 1) :
    DecodesExactly text ↔ cutsCharacter (leadingPairs text).2 = false := by
  rw [DecodesExactly, decodeHex_even even, (readPairs_leading text).2 stopped]
  constructor
  · intro ⟨result, same, _⟩
    cases cuts : cutsCharacter (leadingPairs text).2 with
    | false => rfl
    | true =>
        rw [cuts] at same
        cases same
  · intro whole
    rw [whole]
    refine ⟨none, rfl, ?_⟩
    intro bytes
    constructor
    · intro same
      cases same
    · intro spells
      have read := (readPairs_leading text).2 stopped
      rw [whole, spells.read.1] at read
      cases read

theorem decodesExactly_iff (text : List Char) : DecodesExactly text ↔ PlainlyHex text := by
  by_cases odd : (text.map Char.utf8Size).sum % 2 = 1
  · exact ⟨fun _ => Or.inl odd, fun _ => decodesExactly_odd text odd⟩
  · by_cases whole : (leadingPairs text).2 = []
    · rw [decodesExactly_whole text whole odd]
      simp [PlainlyHex, odd, whole]
    · rw [decodesExactly_stopped text whole odd]
      simp [PlainlyHex, odd, whole]

end Exactness

end SafeCameroon.Numeral
