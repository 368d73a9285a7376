import SafeCameroon.Api.Reports
import SafeCameroon.Library.Lowercase

namespace SafeCameroon.Incidents.Reports

open Text

section Header

/-- The bytes that HTTP allows in the value of a header. -/
def allowedByte (byte : UInt8) : Bool := (32 ≤ byte && byte ≠ 127) || byte = 9

/-- The bytes of a value that reading it as a text passes. -/
def plainByte (byte : UInt8) : Bool := (32 ≤ byte && byte < 127) || byte = 9

/-- What the client put in front of the address that the edge appends. -/
structure ClientHops where
  bytes : Bytes
  allowed : ∀ byte ∈ bytes, allowedByte byte = true

def ClientHops.plain (client : ClientHops) : Bool := client.bytes.all plainByte

structure EdgeAddress where
  bytes : Bytes
  nonempty : bytes ≠ []
  visible : ∀ byte ∈ bytes, 33 ≤ byte ∧ byte < 127 ∧ byte ≠ 44

def textOf (bytes : Bytes) : List Char := bytes.map fun byte => Char.ofNat byte.toNat

def EdgeAddress.key (address : EdgeAddress) : String := String.ofList (textOf address.bytes)

/-- The value that reaches the server; a client that sends no header leaves the address alone. -/
def forwardedFor : Option ClientHops → EdgeAddress → Bytes
  | none, address => address.bytes
  | some client, address => client.bytes ++ 44 :: address.bytes

def Arrives (headers : List (String × Bytes)) (client : Option ClientHops)
    (address : EdgeAddress) : Prop :=
  headers.filter (fun header => header.1 = "x-forwarded-for") =
    [("x-forwarded-for", forwardedFor client address)]

instance (headers : List (String × Bytes)) (client : Option ClientHops) (address : EdgeAddress) :
    Decidable (Arrives headers client address) :=
  inferInstanceAs (Decidable (_ = _))

end Header

section Key

theorem header_arrives {headers : List (String × Bytes)} {client : Option ClientHops}
    {address : EdgeAddress} (arrives : Arrives headers client address) :
    header "x-forwarded-for" headers = some (forwardedFor client address) := by
  have first := congrArg List.head? arrives
  rw [List.head?_filter] at first
  rw [header, first]
  rfl

theorem headerText_plain (value : Bytes) (plain : value.all plainByte = true) :
    headerText value = some (String.ofList (textOf value)) := by
  have read : (value.all fun byte => (32 ≤ byte && byte < 127) || byte == 9) = true := by
    simpa [plainByte] using plain
  rw [headerText, if_pos read]
  rfl

theorem headerText_not_plain (value : Bytes) (other : value.all plainByte = false) :
    headerText value = none := by
  have unread : ¬ (value.all fun byte => (32 ≤ byte && byte < 127) || byte == 9) = true := by
    simpa [plainByte] using other
  rw [headerText, if_neg unread]

theorem visible_char (byte : UInt8) (low : 33 ≤ byte) (high : byte < 127) (other : byte ≠ 44) :
    isWhitespace (Char.ofNat byte.toNat) = false ∧ Char.ofNat byte.toNat ≠ ',' := by
  have table : ∀ small : Fin 256, 33 ≤ small.val → small.val < 127 → small.val ≠ 44 →
      isWhitespace (Char.ofNat small.val) = false ∧ Char.ofNat small.val ≠ ',' := by
    decide +kernel
  have number : byte.toNat ≠ 44 := by
    intro same
    exact other (UInt8.toNat_inj.mp same)
  exact table ⟨byte.toNat, byte.toNat_lt⟩ low high number

theorem EdgeAddress.key_plain (address : EdgeAddress) : address.bytes.all plainByte = true := by
  rw [List.all_eq_true]
  intro byte member
  obtain ⟨low, high, _⟩ := address.visible byte member
  simp only [plainByte, Bool.or_eq_true, Bool.and_eq_true, decide_eq_true_eq]
  left
  exact ⟨UInt8.le_trans (by decide) low, high⟩

theorem EdgeAddress.key_uncut (address : EdgeAddress) :
    (∀ c ∈ textOf address.bytes, isWhitespace c = false) ∧ ',' ∉ textOf address.bytes := by
  have chars : ∀ c ∈ textOf address.bytes, isWhitespace c = false ∧ c ≠ ',' := by
    intro c member
    obtain ⟨byte, within, rfl⟩ := List.mem_map.mp member
    obtain ⟨low, high, other⟩ := address.visible byte within
    exact visible_char byte low high other
  exact ⟨fun c member => (chars c member).1, fun member => (chars ',' member).2 rfl⟩

theorem EdgeAddress.trim_key (address : EdgeAddress) : trim address.key = address.key := by
  have bare : Bare (textOf address.bytes) := by
    constructor
    · intro c first
      exact address.key_uncut.1 c (List.mem_of_mem_head? first)
    · intro c last
      exact address.key_uncut.1 c (List.mem_of_mem_getLast? last)
  rw [trim, EdgeAddress.key, String.toList_ofList, trimChars_bare _ bare]

theorem EdgeAddress.key_ne_empty (address : EdgeAddress) : address.key ≠ "" := by
  intro empty
  have chars := congrArg String.toList empty
  simp only [EdgeAddress.key, textOf, String.toList_ofList, String.toList_empty,
    List.map_eq_nil_iff] at chars
  exact address.nonempty chars

theorem last_hop (client : Option ClientHops) (address : EdgeAddress) :
    ((String.ofList (textOf (forwardedFor client address))).splitOn ",").getLast? =
      some address.key := by
  have comma : "," = String.ofList [','] := rfl
  have alone : (textOf address.bytes).splitOn ',' = [textOf address.bytes] :=
    List.splitOn_eq_singleton address.key_uncut.2
  rw [comma, splitOn_char, String.toList_ofList]
  cases client with
  | none => simp [forwardedFor, alone, EdgeAddress.key]
  | some client =>
      have hops : textOf (forwardedFor (some client) address) =
          textOf client.bytes ++ ',' :: textOf address.bytes := by
        simp [forwardedFor, textOf]
      rw [hops, List.splitOn_append_cons_self, alone, List.map_append, List.map_singleton,
        List.getLast?_concat]
      rfl

def readable (client : Option ClientHops) : Bool := client.all ClientHops.plain

theorem forwardedFor_plain (client : Option ClientHops) (address : EdgeAddress) :
    (forwardedFor client address).all plainByte = readable client := by
  cases client with
  | none => exact address.key_plain
  | some client =>
      have comma : plainByte 44 = true := by decide
      simp [forwardedFor, readable, ClientHops.plain, List.all_append, address.key_plain, comma]

theorem sourceKey_arrives {headers : List (String × Bytes)} {client : Option ClientHops}
    {address : EdgeAddress} (arrives : Arrives headers client address) :
    sourceKeyFromHeaders headers = if readable client then address.key else "unknown" := by
  have plain := forwardedFor_plain client address
  cases read : readable client with
  | true =>
      rw [read] at plain
      simp only [sourceKeyFromHeaders, header_arrives arrives, Option.bind_some,
        headerText_plain _ plain, Option.map_some, last_hop, Option.getD_some, address.trim_key]
      simp [Option.filter, address.key_ne_empty]
  | false =>
      rw [read] at plain
      simp only [sourceKeyFromHeaders, header_arrives arrives, Option.bind_some,
        headerText_not_plain _ plain]
      rfl

/-- Two requests through the edge from one address share its bucket exactly when what their clients
put in front can be read, or the address is spelled as the shared bucket. -/
theorem source_key_is_the_edges_iff (first second : List (String × Bytes))
    (one other : Option ClientHops) (address : EdgeAddress)
    (arrives : Arrives first one address) (arrives' : Arrives second other address) :
    (sourceKeyFromHeaders first = address.key ∧ sourceKeyFromHeaders second = address.key) ↔
      (readable one = true ∧ readable other = true) ∨ address.key = "unknown" := by
  rw [sourceKey_arrives arrives, sourceKey_arrives arrives']
  constructor
  · intro ⟨kept, kept'⟩
    cases read : readable one with
    | false =>
        right
        rw [read] at kept
        exact kept.symm
    | true =>
        cases read' : readable other with
        | false =>
            right
            rw [read'] at kept'
            exact kept'.symm
        | true => exact Or.inl ⟨rfl, rfl⟩
  · intro condition
    cases condition with
    | inl read => simp [read.1, read.2]
    | inr shared => simp [shared]

end Key

section Scenario

def Scenario.edgeAddress : EdgeAddress where
  bytes := [50, 48, 51, 46, 48, 46, 49, 49, 51, 46, 55]
  nonempty := by decide
  visible := by decide +kernel

def Scenario.forgedHop : ClientHops where
  bytes := [49, 46, 50, 46, 51, 46, 52]
  allowed := by decide +kernel

/-- An accented letter, which HTTP allows in the value of a header. -/
def Scenario.accentedHop : ClientHops where
  bytes := [0xC3, 0xA9]
  allowed := by decide +kernel

def Scenario.requestFrom (client : Option ClientHops) : List (String × Bytes) :=
  [("x-forwarded-for", forwardedFor client Scenario.edgeAddress)]

theorem source_key_is_the_edges_forged :
    sourceKeyFromHeaders (Scenario.requestFrom (some Scenario.forgedHop)) =
        Scenario.edgeAddress.key ∧
      sourceKeyFromHeaders (Scenario.requestFrom none) = Scenario.edgeAddress.key :=
  (source_key_is_the_edges_iff (Scenario.requestFrom (some Scenario.forgedHop))
    (Scenario.requestFrom none) (some Scenario.forgedHop) none Scenario.edgeAddress
    (by decide) (by decide)).mpr (Or.inl (by decide))

/-- The client moves itself to the shared bucket by a byte above ASCII. -/
theorem source_key_leaves_the_edges :
    ¬ ∀ (first second : List (String × Bytes)) (one other : Option ClientHops)
        (address : EdgeAddress), Arrives first one address → Arrives second other address →
      sourceKeyFromHeaders first = address.key ∧ sourceKeyFromHeaders second = address.key := by
  intro independent
  have keys := independent (Scenario.requestFrom none)
    (Scenario.requestFrom (some Scenario.accentedHop)) none (some Scenario.accentedHop)
    Scenario.edgeAddress (by decide) (by decide)
  have shared : sourceKeyFromHeaders (Scenario.requestFrom (some Scenario.accentedHop)) =
      "unknown" := by
    decide
  rw [shared] at keys
  exact absurd keys.2 (by decide)

end Scenario

end SafeCameroon.Incidents.Reports
