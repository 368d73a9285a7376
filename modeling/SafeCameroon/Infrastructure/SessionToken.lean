import SafeCameroon.Api.OrganizationAccess
import SafeCameroon.Library.Numeral

namespace SafeCameroon

open Text Numeral

abbrev Hmac := Bytes → String → Bytes

structure IssuedSessionToken where
  token : String
  expiresIn : Nat

structure ReviewerSessionTokenIssuer where
  secret : Bytes
  ttl : Nat

namespace ReviewerSessionTokenIssuer

def defaultTtl : Nat := 12 * 60 * 60

def new (secret : Bytes) : ReviewerSessionTokenIssuer := { secret, ttl := defaultTtl }

def signedText (reviewerId : Uuid) (expiresAt : Nat) : String :=
  reviewerId.display ++ ":" ++ toString expiresAt

variable (hmac : Hmac) (issuer : ReviewerSessionTokenIssuer)

def sign (reviewerId : Uuid) (expiresAt : Nat) : String :=
  String.ofList (encodeHex (hmac issuer.secret (signedText reviewerId expiresAt)))

def issue (now : Nat) (reviewerId : Uuid) : IssuedSessionToken :=
  let expiresAt := now + issuer.ttl
  { token := reviewerId.display ++ "." ++ toString expiresAt ++ "." ++
      sign hmac issuer reviewerId expiresAt
    expiresIn := issuer.ttl }

/-- The reviewer and the expiry that a token names, and what stands behind its second dot. -/
def claims (token : String) : Option (Uuid × Nat × List Char) := do
  let (first, rest) ← splitOnce ['.'] token.toList
  let (second, signature) ← splitOnce ['.'] rest
  let reviewerId ← Uuid.parseStr (String.ofList first)
  let expiresAt ← parseU64 second
  return (reviewerId, expiresAt, signature)

def verify (now : Nat) (token : String) : Except String (Option Incidents.VerifiedSession) :=
  match claims token with
  | none => .ok none
  | some (reviewerId, expiresAt, signature) =>
      if expiresAt < now then .ok none
      else match decodeHex signature with
        | .error message => .error message
        | .ok none => .ok none
        | .ok (some bytes) =>
            if bytes = hmac issuer.secret (signedText reviewerId expiresAt) then
              .ok (some { reviewerId, issuedAt := expiresAt - issuer.ttl })
            else .ok none

def presentedSignature (token : String) : Option Bytes :=
  (claims token).bind fun claimed => match decodeHex claimed.2.2 with
    | .ok bytes => bytes
    | .error _ => none

variable {hmac issuer}

theorem verify_some {now : Nat} {token : String} {session : Incidents.VerifiedSession}
    (verified : verify hmac issuer now token = .ok (some session)) :
    ∃ expiresAt text, claims token = some (session.reviewerId, expiresAt, text) ∧
      now ≤ expiresAt ∧ session.issuedAt = expiresAt - issuer.ttl ∧
      presentedSignature token =
        some (hmac issuer.secret (signedText session.reviewerId expiresAt)) := by
  unfold verify at verified
  split at verified
  · cases verified
  · rename_i reviewerId expiresAt signature claimed
    split at verified
    · cases verified
    · rename_i current
      split at verified
      · cases verified
      · cases verified
      · rename_i bytes decoded
        split at verified
        · rename_i same
          cases verified
          refine ⟨expiresAt, signature, claimed, Nat.le_of_not_lt current, rfl, ?_⟩
          simp [presentedSignature, claimed, decoded, same]
        · cases verified

theorem claims_suffix {token : String} {reviewerId : Uuid} {expiresAt : Nat}
    {signature : List Char} (claimed : claims token = some (reviewerId, expiresAt, signature)) :
    signature <:+ token.toList := by
  simp only [claims, Option.bind_eq_bind, Option.bind_eq_some_iff, Option.pure_def,
    Option.some.injEq, Prod.mk.injEq] at claimed
  obtain ⟨⟨first, rest⟩, outer, ⟨second, behind⟩, inner, _, _, _, _, _, _, rfl⟩ := claimed
  exact (splitOnce_suffix _ _ _ _ inner).trans (splitOnce_suffix _ _ _ _ outer)

theorem verify_ascii (now : Nat) (token : String)
    (ascii : ∀ c ∈ token.toList, c.utf8Size = 1) :
    ∃ result, verify hmac issuer now token = .ok result := by
  unfold verify
  split
  · exact ⟨none, rfl⟩
  · rename_i reviewerId expiresAt signature claimed
    split
    · exact ⟨none, rfl⟩
    · have plain : ∀ c ∈ signature, c.utf8Size = 1 :=
        fun c member => ascii c ((claims_suffix claimed).subset member)
      obtain ⟨result, decoded⟩ := decodeHex_ascii signature plain
      rw [decoded]
      cases result with
      | none => exact ⟨none, rfl⟩
      | some bytes =>
          dsimp only
          split
          · exact ⟨_, rfl⟩
          · exact ⟨none, rfl⟩

theorem toList_toString (value : Nat) : (toString value).toList = Nat.toDigits 10 value := by
  rw [Nat.toString_eq_repr, Nat.toList_repr]

theorem signedText_injective {one other : Uuid} {first second : Nat}
    (same : signedText one first = signedText other second) : one = other ∧ first = second := by
  have chars := congrArg String.toList same
  simp only [signedText, String.toList_append, List.append_assoc, toList_toString] at chars
  have lengths : one.display.toList.length = other.display.toList.length := by
    simp [Uuid.display]
  obtain ⟨ids, rest⟩ := List.append_inj chars lengths
  have digits := List.append_cancel_left rest
  exact ⟨Uuid.display_injective (String.toList_injective ids), toDigits_injective digits⟩

theorem hexText_undotted (width value : Nat) : '.' ∉ hexText width value := by
  induction width generalizing value with
  | zero => simp [hexText]
  | succ width ih =>
      rw [hexText, List.mem_append, List.mem_singleton, not_or]
      exact ⟨ih _, Ne.symm (hexDigit_ascii _ (Nat.mod_lt _ (by decide))).2.2⟩

theorem display_undotted (id : Uuid) : '.' ∉ id.display.toList := by
  simp [Uuid.display, Uuid.hyphenatedChars, hexText_undotted]

theorem toDigits_undotted (value : Nat) : '.' ∉ Nat.toDigits 10 value := by
  intro dotted
  have digit := Nat.isDigit_of_mem_toDigits (by decide) (by decide) dotted
  exact absurd digit (by decide)

theorem claims_issue (now : Nat) (reviewerId : Uuid) (small : now + issuer.ttl < 2 ^ 64) :
    claims (issue hmac issuer now reviewerId).token = some (reviewerId, now + issuer.ttl,
      encodeHex (hmac issuer.secret (signedText reviewerId (now + issuer.ttl)))) := by
  have spelled : (issue hmac issuer now reviewerId).token.toList =
      reviewerId.display.toList ++ ['.'] ++ (Nat.toDigits 10 (now + issuer.ttl) ++ ['.'] ++
        encodeHex (hmac issuer.secret (signedText reviewerId (now + issuer.ttl)))) := by
    simp [issue, sign]
  have outer := splitOnce_append '.' [] reviewerId.display.toList
    (Nat.toDigits 10 (now + issuer.ttl) ++ ['.'] ++
      encodeHex (hmac issuer.secret (signedText reviewerId (now + issuer.ttl))))
    (display_undotted reviewerId)
  have inner := splitOnce_append '.' [] (Nat.toDigits 10 (now + issuer.ttl))
    (encodeHex (hmac issuer.secret (signedText reviewerId (now + issuer.ttl))))
    (toDigits_undotted _)
  simp only [claims, spelled, outer, inner, Option.bind_eq_bind, Option.bind_some,
    String.ofList_toList, Uuid.parseStr_display, parseU64_toDigits _ small, Option.pure_def]

theorem verify_issue (issuedAt now : Nat) (reviewerId : Uuid)
    (small : issuedAt + issuer.ttl < 2 ^ 64) (current : now ≤ issuedAt + issuer.ttl) :
    verify hmac issuer now (issue hmac issuer issuedAt reviewerId).token =
      .ok (some { reviewerId, issuedAt }) := by
  have unexpired : ¬ issuedAt + issuer.ttl < now := Nat.not_lt.mpr current
  rw [verify, claims_issue issuedAt reviewerId small]
  simp only [unexpired, if_false, decodeHex_encodeHex, if_true, Nat.add_sub_cancel]

end ReviewerSessionTokenIssuer

end SafeCameroon
