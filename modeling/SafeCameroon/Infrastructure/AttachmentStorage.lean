import SafeCameroon.Application.AttachmentWorkflow
import SafeCameroon.Infrastructure.HexSignature

namespace SafeCameroon

open Text Numeral

namespace HmacSignedAttachmentStorage

def defaultUploadTtl : Nat := 15 * 60

def defaultDownloadTtl : Nat := 5 * 60

def signedUrl (hmac : Hmac) (storage : HmacSignedAttachmentStorage) (baseUrl : String) (now : Nat)
    (objectKey : String) (ttl : Nat) : SignedUrl :=
  let expiresAt := now + ttl
  { url := baseUrl ++ "/" ++ objectKey ++ "?expires=" ++ toString expiresAt ++ "&signature=" ++
      sign hmac storage objectKey expiresAt
    expiresIn := ttl }

def attachmentStorage (hmac : Hmac) (storage : HmacSignedAttachmentStorage) (baseUrl : String) :
    AttachmentStorage where
  storageProvider := .r2
  createUploadUrl := fun now objectKey _ =>
    .ok (signedUrl hmac storage baseUrl now objectKey defaultUploadTtl)
  createDownloadUrl := fun now objectKey =>
    .ok (signedUrl hmac storage baseUrl now objectKey defaultDownloadTtl)

def readPair (read : Nat × String) (pair : List Char) : Option (Nat × String) :=
  match splitOnce ['='] pair with
  | none => none
  | some (key, value) =>
      if key = "expires".toList then (parseU64 value).map fun expiresAt => (expiresAt, read.2)
      else if key = "signature".toList then some (read.1, String.ofList value)
      else some read

/-- What the query of an address says: the end of the access and the signature. -/
def parseQuery (url : String) : Option (Nat × String) :=
  match splitOnce ['?'] url.toList with
  | none => none
  | some (_, query) => (query.splitOn '&').foldlM readPair (0, "")

section Address

variable (hmac : Hmac) (storage : HmacSignedAttachmentStorage)

theorem hexText_absent (c : Char) (other : hexValue c = none) (width value : Nat) :
    c ∉ hexText width value := by
  induction width generalizing value with
  | zero => exact List.not_mem_nil
  | succ width ih =>
      rw [hexText, List.mem_append, List.mem_singleton, not_or]
      refine ⟨ih _, ?_⟩
      intro same
      have digit := hexValue_hexDigit (value % 16) (Nat.mod_lt _ (by decide))
      rw [← same, other] at digit
      cases digit

theorem encodeHex_absent (c : Char) (other : hexValue c = none) (bytes : Bytes) :
    c ∉ encodeHex bytes := by
  intro member
  obtain ⟨byte, _, within⟩ := List.mem_flatMap.mp member
  exact hexText_absent c other 2 byte.toNat within

theorem toDigits_absent (c : Char) (other : c.isDigit = false) (value : Nat) :
    c ∉ Nat.toDigits 10 value := by
  intro member
  have digit := Nat.isDigit_of_mem_toDigits (by decide) (by decide) member
  rw [other] at digit
  cases digit

theorem attachmentObjectKey_unqueried (reportId : ReportId) (drawn : Uuid) :
    '?' ∉ (attachmentObjectKey reportId drawn).toList := by
  have undisplayed : ∀ id : Uuid, '?' ∉ id.display.toList := by
    intro id
    simp [Uuid.display, Uuid.hyphenatedChars, hexText_absent '?' (by decide)]
  have fixed : '?' ∉ "attachments/".toList := by decide
  simp [attachmentObjectKey, undisplayed]

theorem signedText_unique (first second : String) (one two : Nat)
    (same : signedText first one = signedText second two) : first = second ∧ one = two := by
  have chars := congrArg String.toList same
  simp only [signedText, String.toList_append, List.append_assoc,
    ReviewerSessionTokenIssuer.toList_toString] at chars
  change first.toList ++ ':' :: _ = second.toList ++ ':' :: _ at chars
  obtain ⟨keys, digits⟩ := append_cons_last (toDigits_absent ':' (by decide) one)
    (toDigits_absent ':' (by decide) two) chars
  exact ⟨String.toList_injective keys, toDigits_injective digits⟩

theorem readPair_expires (read : Nat × String) (digits : List Char) (expiresAt : Nat)
    (parsed : parseU64 digits = some expiresAt) :
    readPair read ("expires".toList ++ ['='] ++ digits) = some (expiresAt, read.2) := by
  rw [readPair, splitOnce_append '=' [] _ _ (by decide)]
  dsimp only
  rw [if_pos rfl, parsed]
  rfl

theorem readPair_signature (read : Nat × String) (signature : List Char) :
    readPair read ("signature".toList ++ ['='] ++ signature) =
      some (read.1, String.ofList signature) := by
  rw [readPair, splitOnce_append '=' [] _ _ (by decide)]
  dsimp only
  rw [if_neg (by decide), if_pos rfl]

theorem parseQuery_pairs (url : String) (path digits signature : List Char) (expiresAt : Nat)
    (spelled : url.toList = path ++ ['?'] ++ (("expires".toList ++ ['='] ++ digits) ++
      '&' :: ("signature".toList ++ ['='] ++ signature)))
    (plain : '?' ∉ path) (first : '&' ∉ digits) (second : '&' ∉ signature)
    (parsed : parseU64 digits = some expiresAt) :
    parseQuery url = some (expiresAt, String.ofList signature) := by
  have one : '&' ∉ "expires".toList ++ ['='] ++ digits := by simpa using first
  have other : '&' ∉ "signature".toList ++ ['='] ++ signature := by simpa using second
  rw [parseQuery, spelled, splitOnce_append '?' [] _ _ plain]
  dsimp only
  rw [List.splitOn_append_cons_self_of_not_mem one, List.splitOn_eq_singleton other,
    List.foldlM_cons, readPair_expires _ _ _ parsed, Option.bind_eq_bind, Option.bind_some,
    List.foldlM_cons, readPair_signature, Option.bind_eq_bind, Option.bind_some, List.foldlM_nil,
    Option.pure_def]

theorem parseQuery_signedUrl (baseUrl : String) (plain : '?' ∉ baseUrl.toList) (now : Nat)
    (objectKey : String) (unqueried : '?' ∉ objectKey.toList) (ttl : Nat)
    (small : now + ttl < 2 ^ 64) :
    parseQuery (signedUrl hmac storage baseUrl now objectKey ttl).url =
      some (now + ttl, sign hmac storage objectKey (now + ttl)) := by
  refine parseQuery_pairs _ (baseUrl.toList ++ '/' :: objectKey.toList)
    (Nat.toDigits 10 (now + ttl)) _ _ ?_ ?_ (toDigits_absent '&' (by decide) _)
    (encodeHex_absent '&' (by decide) _) (parseU64_toDigits _ small)
  · simp [signedUrl, sign, Hex.encode]
  · simp [plain, unqueried]

theorem verify_signed (now : Nat) (objectKey otherKey : String) (expiresAt otherExpiry : Nat) :
    verify hmac storage now otherKey otherExpiry (sign hmac storage objectKey expiresAt) =
      .ok (decide (now ≤ otherExpiry ∧ hmac storage.secret (signedText objectKey expiresAt) =
        hmac storage.secret (signedText otherKey otherExpiry))) := by
  have decoded : Hex.decode (sign hmac storage objectKey expiresAt) =
      .ok (some (hmac storage.secret (signedText objectKey expiresAt))) := by
    rw [sign, Hex.decode, Hex.encode, String.toList_ofList, decodeHex_encodeHex]
  rw [verify]
  split
  · rename_i expired
    simp [Nat.not_le.mpr expired]
  · rename_i unexpired
    rw [decoded]
    simp [Nat.not_lt.mp unexpired, bind, Except.bind, pure, Except.pure]

/-- The address that is issued for an attachment carries an end of access and a signature that open
the attachment until then. They open nothing else, and nothing for longer, unless the code of what was
signed is that of another text as well; and no two keys and ends of access are signed as one text. -/
theorem signed_address_opens (baseUrl : String) (plain : '?' ∉ baseUrl.toList) (now : Nat)
    (reportId : ReportId) (drawn : Uuid) (ttl : Nat) (small : now + ttl < 2 ^ 64) :
    (∃ signature, parseQuery (signedUrl hmac storage baseUrl now (attachmentObjectKey reportId drawn)
        ttl).url = some (now + ttl, signature) ∧
      ∀ later objectKey expiresAt, verify hmac storage later objectKey expiresAt signature =
        .ok (decide (later ≤ expiresAt ∧
          ((objectKey = attachmentObjectKey reportId drawn ∧ expiresAt = now + ttl) ∨
            (signedText (attachmentObjectKey reportId drawn) (now + ttl) ≠
                signedText objectKey expiresAt ∧
              hmac storage.secret (signedText (attachmentObjectKey reportId drawn) (now + ttl)) =
                hmac storage.secret (signedText objectKey expiresAt)))))) ∧
    ∀ first second one two, signedText first one = signedText second two →
      first = second ∧ one = two := by
  refine ⟨⟨_, parseQuery_signedUrl hmac storage baseUrl plain now _
    (attachmentObjectKey_unqueried reportId drawn) ttl small, ?_⟩, signedText_unique⟩
  intro later objectKey expiresAt
  rw [verify_signed]
  congr 1
  rw [decide_eq_decide]
  refine and_congr_right fun _ => ?_
  constructor
  · intro agrees
    by_cases same : signedText (attachmentObjectKey reportId drawn) (now + ttl) =
        signedText objectKey expiresAt
    · obtain ⟨key, expiry⟩ := signedText_unique _ _ _ _ same
      exact Or.inl ⟨key.symm, expiry.symm⟩
    · exact Or.inr ⟨same, agrees⟩
  · intro accepted
    rcases accepted with ⟨rfl, rfl⟩ | ⟨_, agrees⟩
    · rfl
    · exact agrees

/-- The address opens the attachment at its last second and not at the next. -/
theorem signed_address_opens_report : ∃ signature, parseQuery (signedUrl
      (fun _ text => asciiBytes text) ⟨[1]⟩ "https://storage.example" 0
      (attachmentObjectKey ⟨1⟩ 2) defaultDownloadTtl).url = some (300, signature) ∧
    verify (fun _ text => asciiBytes text) ⟨[1]⟩ 300 (attachmentObjectKey ⟨1⟩ 2) 300 signature =
      .ok true ∧
    verify (fun _ text => asciiBytes text) ⟨[1]⟩ 301 (attachmentObjectKey ⟨1⟩ 2) 300 signature =
      .ok false := by
  obtain ⟨⟨signature, read, opens⟩, _⟩ := signed_address_opens (fun _ text => asciiBytes text) ⟨[1]⟩
    "https://storage.example" (by decide) 0 ⟨1⟩ 2 defaultDownloadTtl (by decide)
  refine ⟨signature, read, (opens _ _ _).trans ?_, (opens _ _ _).trans ?_⟩
  · simp [defaultDownloadTtl]
  · simp

end Address

end HmacSignedAttachmentStorage

end SafeCameroon
