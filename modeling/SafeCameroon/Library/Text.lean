import Mathlib.Data.List.DropRight
import Mathlib.Data.List.Infix
import Mathlib.Data.Nat.Digits.Defs
import Mathlib.Data.String.Basic

namespace SafeCameroon.Text

def isWhitespace (c : Char) : Bool :=
  (9 ≤ c.toNat && c.toNat ≤ 13) || c.toNat == 0x20 || c.toNat == 0x85 || c.toNat == 0xA0 ||
    c.toNat == 0x1680 || (0x2000 ≤ c.toNat && c.toNat ≤ 0x200A) || c.toNat == 0x2028 ||
    c.toNat == 0x2029 || c.toNat == 0x202F || c.toNat == 0x205F || c.toNat == 0x3000

def trimChars (chars : List Char) : List Char :=
  (chars.dropWhile isWhitespace).rdropWhile isWhitespace

def trim (text : String) : String := String.ofList (trimChars text.toList)

theorem trimChars_isPrefix (chars : List Char) : trimChars chars <+: chars.dropWhile isWhitespace :=
  List.rdropWhile_prefix isWhitespace _

theorem trimChars_dropWhile (chars : List Char) :
    (trimChars chars).dropWhile isWhitespace = trimChars chars := by
  rw [List.dropWhile_eq_self_iff]
  intro positive
  have nonempty : trimChars chars ≠ [] := List.ne_nil_of_length_pos positive
  have same := (trimChars_isPrefix chars).head nonempty
  have stopped := List.head_dropWhile_not isWhitespace
    ((trimChars_isPrefix chars).ne_nil nonempty)
  rw [← List.head_eq_getElem nonempty, same]
  simp [stopped]

theorem trimChars_trimChars (chars : List Char) : trimChars (trimChars chars) = trimChars chars := by
  calc trimChars (trimChars chars)
      = (trimChars chars).rdropWhile isWhitespace := by
        rw [trimChars, trimChars_dropWhile]
    _ = trimChars chars := List.rdropWhile_idempotent isWhitespace _

@[simp] theorem trim_trim (text : String) : trim (trim text) = trim text := by
  simp [trim, trimChars_trimChars]

theorem trim_eq_empty {text : String} : trim text = "" ↔ ∀ c ∈ text.toList, isWhitespace c = true := by
  have nil : trim text = "" ↔ trimChars text.toList = [] := by
    simp [trim]
  rw [nil, trimChars, List.rdropWhile_eq_nil_iff]
  constructor
  · intro inner c member
    cases rest : text.toList.dropWhile isWhitespace with
    | nil => exact List.dropWhile_eq_nil_iff.mp rest c member
    | cons first others =>
        have visible := List.head_dropWhile_not isWhitespace (by simp [rest] :
          text.toList.dropWhile isWhitespace ≠ [])
        simp only [rest, List.head_cons] at visible
        have blank := inner first (by simp [rest])
        rw [blank] at visible
        cases visible
  · intro all c member
    exact all c ((List.dropWhile_sublist _).subset member)

def asciiBytes (text : String) : List UInt8 := text.toList.map fun c => UInt8.ofNat c.toNat

/-- ASCII letters to upper case, every other character unchanged. -/
def toAsciiUppercase (text : String) : String :=
  String.ofList (text.toList.map fun c => if 'a' ≤ c ∧ c ≤ 'z' then Char.ofNat (c.toNat - 32) else c)

def toAsciiLowercase (text : String) : String :=
  String.ofList (text.toList.map fun c => if 'A' ≤ c ∧ c ≤ 'Z' then Char.ofNat (c.toNat + 32) else c)

def eqIgnoreAsciiCase (left right : String) : Bool :=
  toAsciiLowercase left == toAsciiLowercase right

def escapeDebug (c : Char) : String :=
  if c = '"' then "\\\""
  else if c = '\\' then "\\\\"
  else if c = '\n' then "\\n"
  else if c = '\r' then "\\r"
  else if c = '\t' then "\\t"
  else if c.toNat = 0 then "\\0"
  else if c.toNat < 32 ∨ c.toNat = 127 then
    "\\u\x7b" ++ String.ofList (Nat.toDigits 16 c.toNat) ++ "\x7d"
  else c.toString

def debug (text : String) : String := "\"" ++ String.join (text.toList.map escapeDebug) ++ "\""

/-- What lower-casing takes from the Unicode tables. -/
structure UnicodeData where
  lower : Char → List Char
  isCased : Char → Bool
  isCaseIgnorable : Char → Bool

def UnicodeData.ascii : UnicodeData :=
  { lower := fun c => if 'A' ≤ c ∧ c ≤ 'Z' then [Char.ofNat (c.toNat + 32)] else [c]
    isCased := fun c => ('A' ≤ c ∧ c ≤ 'Z') ∨ ('a' ≤ c ∧ c ≤ 'z')
    isCaseIgnorable := fun c => c = '\'' ∨ c = '.' ∨ c = ':' }

/-- Whether a capital sigma between the two texts ends its word; `before` runs backwards. -/
def UnicodeData.isFinal (data : UnicodeData) (before after : List Char) : Bool :=
  let adjacent := fun chars : List Char => match chars.dropWhile data.isCaseIgnorable with
    | [] => false
    | c :: _ => data.isCased c
  adjacent before && !adjacent after

def UnicodeData.lowerChars (data : UnicodeData) (before : List Char) : List Char → List Char
  | [] => []
  | c :: after =>
      (if c = 'Σ' then (if data.isFinal before after then ['ς'] else ['σ']) else data.lower c) ++
        data.lowerChars (c :: before) after

def UnicodeData.toLowercase (data : UnicodeData) (text : String) : String :=
  String.ofList (data.lowerChars [] text.toList)

def contains (text part : String) : Bool := decide (part.toList <:+: text.toList)

def startsWith (text part : String) : Bool := decide (part.toList <+: text.toList)

/-- What stands before the first occurrence of the separator, and what stands behind it. -/
def splitOnce (separator : List Char) : List Char → Option (List Char × List Char)
  | [] => if separator = [] then some ([], []) else none
  | c :: rest =>
      if separator <+: c :: rest then some ([], (c :: rest).drop separator.length)
      else (splitOnce separator rest).map fun parts => (c :: parts.1, parts.2)

theorem splitOnce_suffix (separator chars front back : List Char)
    (split : splitOnce separator chars = some (front, back)) : back <:+ chars := by
  induction chars generalizing front with
  | nil =>
      simp only [splitOnce] at split
      split_ifs at split
      cases split
      exact List.suffix_refl _
  | cons c rest ih =>
      simp only [splitOnce] at split
      split_ifs at split with starts
      · cases split
        exact List.drop_suffix _ _
      · obtain ⟨parts, later, same⟩ := Option.map_eq_some_iff.mp split
        cases same
        exact (ih parts.1 later).trans (List.suffix_cons c rest)

theorem splitOnce_absent (first : Char) (separator chars : List Char) (absent : first ∉ chars) :
    splitOnce (first :: separator) chars = none := by
  induction chars with
  | nil => simp [splitOnce]
  | cons c rest ih =>
      rw [List.mem_cons, not_or] at absent
      have other : ¬ (first :: separator <+: c :: rest) := by
        intro starts
        exact absent.1 (List.cons_prefix_cons.mp starts).1
      simp [splitOnce, other, ih absent.2]

theorem splitOnce_append (first : Char) (separator front back : List Char) (absent : first ∉ front) :
    splitOnce (first :: separator) (front ++ (first :: separator) ++ back) = some (front, back) := by
  induction front with
  | nil => simp [splitOnce]
  | cons c rest ih =>
      rw [List.mem_cons, not_or] at absent
      have other : ¬ (first :: separator <+: c :: (rest ++ (first :: separator) ++ back)) := by
        intro starts
        exact absent.1 (List.cons_prefix_cons.mp starts).1
      rw [List.cons_append, List.cons_append, splitOnce, if_neg other, ih absent.2]
      rfl

theorem append_cons_last {c : Char} {front back front' back' : List Char} (absent : c ∉ back)
    (absent' : c ∉ back') (same : front ++ c :: back = front' ++ c :: back') :
    front = front' ∧ back = back' := by
  rcases List.append_eq_append_iff.mp same with ⟨between, rfl, rest⟩ | ⟨between, rfl, rest⟩
  · cases between with
    | nil => exact ⟨(List.append_nil front).symm, (List.cons.inj rest).2⟩
    | cons head between =>
        have behind := (List.cons.inj rest).2
        exact absurd (by simp [behind]) absent
  · cases between with
    | nil => exact ⟨List.append_nil front', (List.cons.inj rest).2.symm⟩
    | cons head between =>
        have behind := (List.cons.inj rest).2
        exact absurd (by simp [behind]) absent'

open String in
theorem splitOnAux_char (c : Char) (front inner rest : List Char) (parts : List String) :
    splitOnAux (ofList (front ++ inner ++ rest)) (ofList [c]) ⟨utf8Len front⟩
        ⟨utf8Len front + utf8Len inner⟩ 0 parts =
      parts.reverse ++ (List.splitOnPPrepend (· == c) rest inner.reverse).map ofList := by
  induction rest generalizing front inner parts with
  | nil =>
      have part := extract_of_valid front inner []
      have ended : Pos.Raw.atEnd (ofList (front ++ inner ++ []))
          ⟨utf8Len front + utf8Len inner⟩ = true := by
        simp [-ofList_append]
      rw [splitOnAux, if_pos ended, part]
      simp
  | cons d rest ih =>
      have part := extract_of_valid front inner (d :: rest)
      have place : utf8Len front + utf8Len inner = utf8Len (front ++ inner) := by simp
      have running : ¬ Pos.Raw.atEnd (ofList (front ++ inner ++ d :: rest))
          ⟨utf8Len front + utf8Len inner⟩ = true := by
        have wide := Char.utf8Size_pos d
        simp only [atEnd_iff, rawEndPos_ofList, utf8Len_append, utf8Len_cons, Pos.Raw.mk_le_mk]
        omega
      have read : Pos.Raw.get (ofList (front ++ inner ++ d :: rest))
          ⟨utf8Len front + utf8Len inner⟩ = d := by
        rw [place, get_of_valid]
        rfl
      have next : Pos.Raw.next (ofList (front ++ inner ++ d :: rest))
          ⟨utf8Len front + utf8Len inner⟩ = ⟨utf8Len front + utf8Len inner + d.utf8Size⟩ := by
        rw [place, next_of_valid]
      have separator : Pos.Raw.get (ofList [c]) 0 = c := get_of_valid [] [c]
      have past : Pos.Raw.next (ofList [c]) 0 = ⟨c.utf8Size⟩ := by
        have stepped := next_of_valid [] c []
        simpa using stepped
      have done : Pos.Raw.atEnd (ofList [c]) ⟨c.utf8Size⟩ = true := by
        simp only [atEnd_iff, rawEndPos_ofList]
        simp
      rw [splitOnAux, if_neg running, read, separator]
      by_cases same : d = c
      · subst same
        have later := ih (front ++ inner ++ [d]) [] (ofList inner :: parts)
        have back : Pos.Raw.unoffsetBy ⟨utf8Len front + utf8Len inner + d.utf8Size⟩ ⟨d.utf8Size⟩ =
            ⟨utf8Len front + utf8Len inner⟩ := by
          simp [Pos.Raw.unoffsetBy]
        simp only [beq_self_eq_true, if_true, next, past, done, back, part]
        simpa [-ofList_append, Nat.add_assoc, List.splitOnPPrepend_cons_eq_if] using later
      · have later := ih front (inner ++ [d]) parts
        have other : (d == c) = false := by simp [same]
        have back : Pos.Raw.unoffsetBy ⟨utf8Len front + utf8Len inner⟩ 0 =
            ⟨utf8Len front + utf8Len inner⟩ := by
          simp [Pos.Raw.unoffsetBy]
        simp only [other, Bool.false_eq_true, if_false, back, next]
        simpa [-ofList_append, Nat.add_assoc, List.splitOnPPrepend_cons_eq_if, other] using later

theorem splitOn_char (text : String) (c : Char) :
    text.splitOn (String.ofList [c]) = (text.toList.splitOn c).map String.ofList := by
  have nonempty : (String.ofList [c] == "") = false := by
    simp
  have whole := splitOnAux_char c [] [] text.toList []
  rw [String.splitOn, nonempty, List.splitOn_eq_splitOnP]
  simpa using whole

def hexDigit (value : Nat) : Char :=
  if value < 10 then Char.ofNat (48 + value) else Char.ofNat (87 + value)

/-- The value of one digit in base sixteen, in either case. -/
def hexValue (c : Char) : Option Nat :=
  if '0' ≤ c ∧ c ≤ '9' then some (c.toNat - 48)
  else if 'a' ≤ c ∧ c ≤ 'f' then some (c.toNat - 87)
  else if 'A' ≤ c ∧ c ≤ 'F' then some (c.toNat - 55)
  else none

theorem hexValue_hexDigit (value : Nat) (h : value < 16) : hexValue (hexDigit value) = some value := by
  have table : ∀ small : Fin 16, hexValue (hexDigit small) = some small.val := by decide
  exact table ⟨value, h⟩

/-- The low `width` digits of a number in base sixteen, the highest first. -/
def hexText : Nat → Nat → List Char
  | 0, _ => []
  | width + 1, value => hexText width (value / 16) ++ [hexDigit (value % 16)]

def hexNumber (chars : List Char) : Option Nat :=
  chars.foldlM (fun value c => (hexValue c).map fun digit => 16 * value + digit) 0

@[simp] theorem hexText_length (width value : Nat) : (hexText width value).length = width := by
  induction width generalizing value with
  | zero => rfl
  | succ width ih => simp [hexText, ih]

theorem hexNumber_hexText_mod (width value : Nat) :
    hexNumber (hexText width value) = some (value % 16 ^ width) := by
  induction width generalizing value with
  | zero => simp [hexText, hexNumber, Nat.mod_one]
  | succ width ih =>
      have digit := hexValue_hexDigit (value % 16) (Nat.mod_lt _ (by decide))
      have front : hexNumber (hexText width (value / 16)) = some (value / 16 % 16 ^ width) := ih _
      simp only [hexNumber] at front
      simp only [hexText, hexNumber, List.foldlM_append, front, List.foldlM_cons, List.foldlM_nil,
        digit, Option.map_some, Option.bind_eq_bind, Option.bind_some, Option.pure_def,
        Option.some.injEq]
      rw [Nat.pow_succ, Nat.mul_comm (16 ^ width) 16, Nat.mod_mul]
      omega

theorem hexNumber_hexText (width value : Nat) (h : value < 16 ^ width) :
    hexNumber (hexText width value) = some value := by
  rw [hexNumber_hexText_mod, Nat.mod_eq_of_lt h]

theorem hexText_append (first second value : Nat) :
    hexText (first + second) value = hexText first (value / 16 ^ second) ++ hexText second value := by
  induction second generalizing value with
  | zero => simp [hexText]
  | succ second ih =>
      rw [Nat.add_succ, hexText, ih, hexText, Nat.div_div_eq_div_mul, Nat.pow_succ,
        Nat.mul_comm 16, List.append_assoc]

end SafeCameroon.Text
