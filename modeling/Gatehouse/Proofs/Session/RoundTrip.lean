/-
A token that claims are written as reads back as those claims, with their provider account, exactly
while they hold; and a session that is issued is one whose token does so. Nothing is asked of the
texts, the secret or the nonce; the ends of the window have to be dates, and the claims must not
expire before 1970.
-/
import Gatehouse.Proofs.Session.Payload
import Gatehouse.Proofs.Session.Read
import Gatehouse.Proofs.Session.SealedAccount
import Gatehouse.Proofs.Text.Plain

namespace Gatehouse.Session

open Gatehouse.Text Gatehouse.Identity Gatehouse.Time
open Gatehouse.Json (Syntax Value)

variable (secret : SigningSecret) (nonce : Nonce)

/-! ## The parts of a written token -/

/-- The sealed account that goes into the payload of claims. -/
def blobOf (claims : SessionClaims) : Option String :=
  claims.provider.map fun account => String.ofList (sealAccount secret nonce account)

/-- The header and the payload of the token of claims. -/
def messageOf (claims : SessionClaims) : List Char :=
  encodePart headerJson ++ '.' :: encodePart (payloadJson claims (blobOf secret nonce claims))

theorem toList_encodeToken (claims : SessionClaims) :
    (encodeToken secret nonce claims).toList =
      messageOf secret nonce claims ++ '.' :: secret.sign (messageOf secret nonce claims) := by
  rw [encodeToken, String.toList_ofList]
  rfl

theorem parts_encodeToken (claims : SessionClaims) :
    TokenParts.of? (encodeToken secret nonce claims).toList =
      some ⟨encodePart headerJson, encodePart (payloadJson claims (blobOf secret nonce claims)),
        secret.sign (messageOf secret nonce claims)⟩ := by
  rw [toList_encodeToken]
  exact parts_of?_append _ (dot_notMem_encode _) (dot_notMem_sign _ _)

theorem isDigitOrDot_encodeToken (claims : SessionClaims) :
    ∀ c ∈ (encodeToken secret nonce claims).toList, isDigitOrDot c = true := by
  have hdigit : ∀ bs, ∀ c ∈ Base64Url.encode bs, isDigitOrDot c = true := fun bs c hc => by
    rw [isDigitOrDot, Base64Url.isDigit_of_mem_encode hc, Bool.true_or]
  intro c hc
  rw [toList_encodeToken, messageOf, List.mem_append, List.mem_append, List.mem_cons, List.mem_cons] at hc
  rcases hc with (hheader | rfl | hpayload) | rfl | hsignature
  · exact hdigit _ c hheader
  · decide
  · exact hdigit _ c hpayload
  · decide
  · exact hdigit _ c hsignature

theorem toList_encodeToken_ne_nil (claims : SessionClaims) : (encodeToken secret nonce claims).toList ≠ [] := by
  rw [toList_encodeToken]
  exact List.append_ne_nil_of_right_ne_nil _ (List.cons_ne_nil _ _)

theorem decode?_encodePart (v : Value) : Base64Url.decode? (encodePart v) = some (utf8Bytes v.write) :=
  Base64Url.decode?_encode _

theorem isHeader_headerJson : isHeader headerJson.shape = true := by
  rw [isHeader, headerJson, Json.fields?_shape]
  · rfl
  · show ["typ", "alg"].Nodup
    decide

theorem isHeaderPart_headerJson : isHeaderPart (encodePart headerJson) = true := by
  have hread := Json.read_write headerJson ⟨trivial, trivial, trivial⟩
  rw [isHeaderPart, decode?_encodePart, Option.bind_some, hread, Option.any_some, isHeader_headerJson]

/-! ## Decoding -/

theorem decodeToken_encodeToken {claims : SessionClaims} (hi : claims.issuedAt.IsDatedSecond)
    (he : claims.expiresAt.IsDatedSecond) :
    decodeToken secret (encodeToken secret nonce claims) =
      if 0 ≤ claims.expiresAt.seconds then .ok claims else .error .malformed := by
  rw [decodeToken, isBlankText_of_parts (parts_encodeToken secret nonce claims), parts_encodeToken]
  simp only [Bool.false_eq_true, if_false, isHeaderPart_headerJson, Bool.not_true, TokenParts.message,
    decode?_encodePart, Option.bind_some, claimsOfPayload?_payloadJson _ hi he]
  rw [if_neg (by simp [messageOf])]
  by_cases hexp : 0 ≤ claims.expiresAt.seconds
  · rw [if_pos hexp, if_pos hexp]
    obtain ⟨subject, email, name, organization, role, onboarded, iat, exp, provider⟩ := claims
    -- the payload gives back everything but the account, and the sealed form gives the account
    cases provider with
    | none => rfl
    | some account => simp only [blobOf, Option.map_some, String.toList_ofList, unsealAccount?_sealAccount]
  · rw [if_neg hexp, if_neg hexp]

/-! ## Reading at an instant -/

theorem readToken_encodeToken {claims : SessionClaims} {now : Instant} (hi : claims.issuedAt.IsDatedSecond)
    (he : claims.expiresAt.IsDatedSecond) (hexp : 0 ≤ claims.expiresAt.seconds) (hlo : claims.issuedAt ≤ now)
    (hhi : now < claims.expiresAt) : readToken secret (encodeToken secret nonce claims) now = .ok claims := by
  have hdecode := decodeToken_encodeToken secret nonce hi he
  rw [if_pos hexp] at hdecode
  exact readToken_of_window secret hdecode hlo hhi

/-! ## The sealed account in a token -/

/-- The text of the one member `prv` of a token's payload. -/
def sealedPart? (token : String) : Option String := do
  let parts ← TokenParts.of? token.toList
  match ← Syntax.read (← Base64Url.decode? parts.payload) with
  | .object members => Json.requiredText? (← Json.uniqueMember? members "prv")
  | _ => none

theorem sealedPart?_encodeToken {claims : SessionClaims} {account : ProviderAccount}
    (hprovider : claims.provider = some account) (hi : claims.issuedAt.IsDatedSecond)
    (he : claims.expiresAt.IsDatedSecond) :
    sealedPart? (encodeToken secret nonce claims) = some (String.ofList (sealAccount secret nonce account)) := by
  have hblob : blobOf secret nonce claims = some (String.ofList (sealAccount secret nonce account)) := by
    rw [blobOf, hprovider, Option.map_some]
  have hread := Json.read_write _ (fits_payloadJson (blobOf secret nonce claims) hi.2 he.2)
  rw [payloadJson_eq, Value.shape] at hread
  rw [sealedPart?, parts_encodeToken, Option.bind_eq_bind, Option.bind_some, decode?_encodePart, payloadJson_eq,
    Option.bind_eq_bind, Option.bind_some, hread, Option.bind_eq_bind, Option.bind_some]
  simp only [Json.uniqueMember?_shapeMembers (nodup_payloadKeys claims _), hblob]
  rfl

/-- `readToken` on `encodeToken` gives claims back with their `provider`, at every instant from `issuedAt` until
before `expiresAt`. The `prv` member of the payload is the base64 text of `12 + n + 16` bytes, where `n` is the length
of the account's JSON, and the first twelve are `nonce`. -/
theorem sealed_token_round_trip {claims : SessionClaims} {account : ProviderAccount}
    (hprovider : claims.provider = some account) (hi : claims.issuedAt.IsDatedSecond)
    (he : claims.expiresAt.IsDatedSecond) (hexp : 0 ≤ claims.expiresAt.seconds) :
    (∀ now : Instant, claims.issuedAt ≤ now → now < claims.expiresAt →
      readToken secret (encodeToken secret nonce claims) now = .ok claims) ∧
    ∃ bytes : List UInt8,
      sealedPart? (encodeToken secret nonce claims) = some (String.ofList (Base64Url.encode bytes)) ∧
      bytes.length = 12 + (utf8Bytes (accountJson account).write).length + 16 ∧
      bytes.take 12 = nonce.bytes := by
  refine ⟨fun now hlo hhi => readToken_encodeToken secret nonce hi he hexp hlo hhi,
    sealedBytes secret nonce account, ?_, length_sealedBytes secret nonce account,
    take_sealedBytes secret nonce account⟩
  rw [← sealAccount_eq]
  exact sealedPart?_encodeToken secret nonce hprovider hi he

/-- An account without a name, whose access token holds a quote, a control character and a character beyond the
first plane. -/
theorem sealed_token_round_trip_unnamed :
    readToken ⟨[0], by decide⟩ (encodeToken ⟨[0], by decide⟩ (.ofNat 1)
      ⟨⟨7⟩, "", "", none, ⟨""⟩, false, .ofSeconds (-1), .ofSeconds 1, some ⟨"", "\"\x00😀"⟩⟩) ⟨999999999⟩ =
        .ok ⟨⟨7⟩, "", "", none, ⟨""⟩, false, .ofSeconds (-1), .ofSeconds 1, some ⟨"", "\"\x00😀"⟩⟩ :=
  (@sealed_token_round_trip ⟨[0], by decide⟩ (.ofNat 1) _ ⟨"", "\"\x00😀"⟩ rfl (by decide) (by decide)
    (by decide)).1 ⟨999999999⟩ (by decide) (by decide)

end Gatehouse.Session
