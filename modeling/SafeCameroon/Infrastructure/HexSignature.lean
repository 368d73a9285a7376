import SafeCameroon.Infrastructure.SessionToken
import SafeCameroon.Infrastructure.Webhook

namespace SafeCameroon

open Text Numeral

namespace Hex

def encode (bytes : Bytes) : String := String.ofList (encodeHex bytes)

def decode (value : String) : Except String (Option Bytes) := decodeHex value.toList

end Hex

structure HmacSignedAttachmentStorage where
  secret : Bytes

namespace HmacSignedAttachmentStorage

variable (hmac : Hmac) (storage : HmacSignedAttachmentStorage)

def signedText (objectKey : String) (expiresAt : Nat) : String :=
  objectKey ++ ":" ++ toString expiresAt

def sign (objectKey : String) (expiresAt : Nat) : String :=
  Hex.encode (hmac storage.secret (signedText objectKey expiresAt))

/-- Whether the signature is the one of an address that has not expired; the error is a panic. -/
def verify (now : Nat) (objectKey : String) (expiresAt : Nat) (signature : String) :
    Except String Bool :=
  if expiresAt < now then .ok false
  else do
    match ← Hex.decode signature with
    | none => return false
    | some bytes => return bytes = hmac storage.secret (signedText objectKey expiresAt)

end HmacSignedAttachmentStorage

namespace Hex

/-- What the users of signatures in base sixteen rely on for a text. -/
structure Reads (text : String) : Prop where
  decoded : ∃ result, decode text = .ok result ∧
    ∀ bytes, result = some bytes ↔ Spells text.toList bytes
  header : ∃ result, HmacSignedWebhookVerifier.decodeHex text = .ok result ∧
    ∀ bytes, result = .ok bytes ↔ Spells text.toList bytes
  storage : ∀ hmac storage now objectKey expiresAt, ∃ verdict,
    HmacSignedAttachmentStorage.verify hmac storage now objectKey expiresAt text = .ok verdict
  webhook : ∀ libraries secret (headers : Headers) rawBody name,
    headers.find? (fun header => eqIgnoreAsciiCase header.1
      HmacSignedWebhookVerifier.signatureHeader) = some (name, text) →
    ∃ result, HmacSignedWebhookVerifier.verifyAndParse libraries secret headers rawBody =
      .ok result

theorem reads_of_decoded {text : String} (exact : DecodesExactly text.toList) : Reads text := by
  obtain ⟨result, read, spelled⟩ := exact
  have header : HmacSignedWebhookVerifier.decodeHex text =
      .ok (HmacSignedWebhookVerifier.orNotHex result) := by
    rw [HmacSignedWebhookVerifier.decodeHex, read]
    rfl
  constructor
  · exact ⟨result, read, spelled⟩
  · refine ⟨_, header, ?_⟩
    intro bytes
    rw [← spelled bytes]
    cases result <;> simp [HmacSignedWebhookVerifier.orNotHex]
  · intro hmac storage now objectKey expiresAt
    have decoded : decode text = .ok result := read
    rw [HmacSignedAttachmentStorage.verify, decoded]
    split
    · exact ⟨false, rfl⟩
    · cases result with
      | none => exact ⟨false, rfl⟩
      | some bytes => exact ⟨_, rfl⟩
  · intro libraries secret headers rawBody name found
    rw [HmacSignedWebhookVerifier.verifyAndParse, found]
    dsimp only
    rw [header]
    exact ⟨_, rfl⟩

/-- What is encoded is decoded; and a text is read exactly, and without a panic, just when it is
plainly one in base sixteen or plainly none. -/
theorem decoding_exact_iff (bytes : Bytes) (text : String) :
    decode (encode bytes) = .ok (some bytes) ∧ (Reads text ↔ PlainlyHex text.toList) := by
  constructor
  · rw [decode, encode, String.toList_ofList, decodeHex_encodeHex]
  · rw [← decodesExactly_iff]
    exact ⟨fun reads => reads.decoded, reads_of_decoded⟩

/-- A slice that cuts a character panics, and a plus sign passes for a digit. -/
theorem decoding_not_exact : ¬ Reads "aéb" ∧ ¬ Reads "+f" := by
  constructor
  · intro reads
    obtain ⟨result, read, _⟩ := reads.decoded
    have panics : decode "aéb" = .error boundary := by decide
    rw [panics] at read
    cases read
  · intro reads
    obtain ⟨result, read, spelled⟩ := reads.decoded
    have taken : decode "+f" = .ok (some [15]) := by decide
    rw [taken] at read
    cases read
    have spells := (spelled [15]).mp rfl
    exact spells.read.2.2 (by decide)

end Hex

end SafeCameroon
