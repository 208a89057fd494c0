/-
The text of a token's payload. Who the session belongs to stands in front, then the ends of its window in
digits and the audience; the sealed account comes last, if there is one, and its length is settled by the
length of the account's JSON.
-/
import Gatehouse.Proofs.Session.RoundTrip

namespace Gatehouse.Json

theorem writeMembers_cons_cons (key : String) (value : Value) (next : String × Value) (ms : List (String × Value)) :
    writeMembers ((key, value) :: next :: ms) =
      writeText key ++ ':' :: value.write ++ ',' :: writeMembers (next :: ms) := by
  rw [writeMembers]
  rfl

theorem writeMembers_append {ms ns : List (String × Value)} (hms : ms ≠ []) (hns : ns ≠ []) :
    writeMembers (ms ++ ns) = writeMembers ms ++ ',' :: writeMembers ns := by
  induction ms with
  | nil => exact absurd rfl hms
  | cons member ms ih =>
    obtain ⟨key, value⟩ := member
    cases ms with
    | nil => simp [writeMembers, hns]
    | cons next ms =>
      rw [List.cons_append, List.cons_append, writeMembers_cons_cons, writeMembers_cons_cons, ← List.cons_append,
        ih (List.cons_ne_nil _ _)]
      simp only [List.append_assoc, List.cons_append]

theorem writeText_of_isDigit {cs : List Char} (h : ∀ c ∈ cs, Text.Base64Url.isDigit c = true) :
    writeText (String.ofList cs) = '"' :: cs ++ ['"'] := by
  have hescape : ∀ c ∈ cs, escapeChar c = [c] := by
    intro c hc
    have hne : ∀ {mark : Char}, Text.Base64Url.isDigit mark = false → c ≠ mark := by
      rintro mark hmark rfl
      rw [h c hc] at hmark
      cases hmark
    obtain ⟨hlo, -, -⟩ := Text.Base64Url.toNat_of_isDigit (h c hc)
    unfold escapeChar
    rw [if_neg (hne (by decide)), if_neg (hne (by decide)), if_neg (hne (by decide)), if_neg (hne (by decide)),
      if_neg (hne (by decide)), if_neg (hne (by decide)), if_neg (hne (by decide)), if_neg (by omega)]
  rw [writeText, String.toList_ofList, List.flatMap_congr hescape, List.flatMap_singleton']

end Gatehouse.Json

namespace Gatehouse.Session

open Gatehouse.Text Gatehouse.Crypto Gatehouse.Identity Gatehouse.Time
open Gatehouse.Json (Value)

/-! ## The parts of the text -/

/-- The text of a payload up to its window: whom the session belongs to. -/
def payloadFront (claims : SessionClaims) : String := String.ofList ('{' :: Json.writeMembers (claims.members.take 6))

/-- The digits that an instant has in a payload. -/
def secondsText (t : Instant) : String := String.ofList (Integer.signedDigits t.seconds)

/-- The text of a payload up to its account: its front, the digits of its window, and the audience. -/
def bareText (claims : SessionClaims) : String :=
  payloadFront claims ++ ",\"iat\":" ++ secondsText claims.issuedAt ++ ",\"exp\":" ++ secondsText claims.expiresAt ++
    ",\"aud\":\"dashgate.session\""

/-- The member for a provider account as it stands behind the others. -/
def sealedMember (secret : SigningSecret) (nonce : Nonce) : Option ProviderAccount → String
  | none => ""
  | some account => ",\"prv\":\"" ++ String.ofList (sealAccount secret nonce account) ++ "\""

variable (secret : SigningSecret) (nonce : Nonce) (claims : SessionClaims)

theorem isDigit_of_mem_sealAccount {account : ProviderAccount} {c : Char} (h : c ∈ sealAccount secret nonce account) :
    Base64Url.isDigit c = true := Base64Url.isDigit_of_mem_encode h

theorem payloadList_eq (blob : Option String) :
    payloadList claims blob = claims.members.take 6 ++ (("iat", .integer claims.issuedAt.seconds) ::
      ("exp", .integer claims.expiresAt.seconds) :: ("aud", .text audience) ::
        blob.toList.map fun blob => ("prv", .text blob)) := by
  unfold payloadList
  cases blob <;> rfl

theorem writeMembers_window :
    Json.writeMembers (("iat", .integer claims.issuedAt.seconds) :: ("exp", .integer claims.expiresAt.seconds) ::
      ("aud", .text audience) :: (blobOf secret nonce claims).toList.map fun blob => ("prv", .text blob)) =
      ("\"iat\":" ++ secondsText claims.issuedAt ++ ",\"exp\":" ++ secondsText claims.expiresAt ++
        ",\"aud\":\"dashgate.session\"" ++ sealedMember secret nonce claims.provider).toList := by
  have hkeys : Json.writeText "iat" ++ [':'] = "\"iat\":".toList ∧
      ',' :: Json.writeText "exp" ++ [':'] = ",\"exp\":".toList ∧
      ',' :: Json.writeText "aud" ++ ':' :: Json.writeText audience = ",\"aud\":\"dashgate.session\"".toList ∧
      ',' :: Json.writeText "prv" ++ [':', '"'] = ",\"prv\":\"".toList := by decide +kernel
  obtain ⟨hiat, hexp, haud, hprv⟩ := hkeys
  simp only [String.toList_append, secondsText, String.toList_ofList, ← hiat, ← hexp, ← haud]
  -- the sealed form is the last member or there is none
  cases hprovider : claims.provider with
  | none => simp [blobOf, hprovider, sealedMember, Json.writeMembers, Value.write]
  | some account =>
    have hblob : Json.writeText (String.ofList (sealAccount secret nonce account)) =
        '"' :: sealAccount secret nonce account ++ ['"'] :=
      Json.writeText_of_isDigit fun _ => isDigit_of_mem_sealAccount secret nonce
    simp [blobOf, hprovider, sealedMember, Json.writeMembers, Value.write, hblob, ← hprv]

theorem write_payloadJson : (payloadJson claims (blobOf secret nonce claims)).write =
    (bareText claims ++ sealedMember secret nonce claims.provider ++ "\x7d").toList := by
  have hmark : ",\"iat\":".toList = ',' :: "\"iat\":".toList := by decide +kernel
  have hclose : "\x7d".toList = ['}'] := by decide +kernel
  rw [payloadJson_eq, Value.write, payloadList_eq, Json.writeMembers_append (by simp [SessionClaims.members]) (by simp),
    writeMembers_window]
  simp only [bareText, payloadFront, String.toList_append, String.toList_ofList, hmark, hclose, List.cons_append,
    List.append_assoc]

/-- The header of a token as it is spelled. -/
def headerPart? (token : String) : Option (List Char) := (TokenParts.of? token.toList).map TokenParts.header

/-- The text of a token's payload. -/
def payloadText? (token : String) : Option String := do
  let parts ← TokenParts.of? token.toList
  ofBytes? (← Base64Url.decode? parts.payload)

theorem headerPart?_encodeToken : headerPart? (encodeToken secret nonce claims) = some (encodePart headerJson) := by
  rw [headerPart?, parts_encodeToken, Option.map_some]

theorem payloadText?_encodeToken : payloadText? (encodeToken secret nonce claims) =
    some (bareText claims ++ sealedMember secret nonce claims.provider ++ "\x7d") := by
  rw [payloadText?, parts_encodeToken, Option.bind_eq_bind, Option.bind_some, decode?_encodePart, Option.bind_eq_bind,
    Option.bind_some, ofBytes?_utf8Bytes, write_payloadJson, String.ofList_toList]

/-! ## Lengths -/

theorem length_sealAccount (account : ProviderAccount) :
    (sealAccount secret nonce account).length = (4 * (12 + (accountBytes account).length + 16) + 2) / 3 := by
  rw [sealAccount_eq, Base64Url.length_encode, length_sealedBytes]

theorem length_utf8Bytes_of_lt {cs : List Char} (h : ∀ c ∈ cs, c.toNat < 128) : (utf8Bytes cs).length = cs.length := by
  rw [utf8Bytes_of_lt h, List.length_map]

theorem length_bytesOf_sealedMember (account : ProviderAccount) :
    (bytesOf (sealedMember secret nonce (some account))).length =
      9 + (4 * (12 + (accountBytes account).length + 16) + 2) / 3 := by
  have hdigits : ∀ c ∈ sealAccount secret nonce account, c.toNat < 128 := by
    intro c hc
    have := Base64Url.toNat_of_isDigit (isDigit_of_mem_sealAccount secret nonce hc)
    omega
  have hfront : (utf8Bytes ",\"prv\":\"".toList).length = 8 := by decide +kernel
  have hback : (utf8Bytes "\"".toList).length = 1 := by decide +kernel
  rw [bytesOf, sealedMember, String.toList_append, String.toList_append, utf8Bytes_append, utf8Bytes_append,
    List.length_append, List.length_append, hfront, hback, String.toList_ofList, length_utf8Bytes_of_lt hdigits,
    length_sealAccount]
  omega

theorem length_sign (message : List Char) : (secret.sign message).length = 43 := by
  rw [SigningSecret.sign, Base64Url.length_encode, Hmac.sha256, Sha256.length_hash]

/-- A token is the digits of its header and of its payload's text, two dots, and 43 digits of a signature. -/
theorem length_encodeToken : (encodeToken secret nonce claims).length =
    (encodePart headerJson).length + 45 + (4 * ((bytesOf (bareText claims)).length +
      (bytesOf (sealedMember secret nonce claims.provider)).length + 1) + 2) / 3 := by
  have hclose : (utf8Bytes "\x7d".toList).length = 1 := by decide +kernel
  have hpayload : (encodePart (payloadJson claims (blobOf secret nonce claims))).length =
      (4 * ((bytesOf (bareText claims)).length +
        (bytesOf (sealedMember secret nonce claims.provider)).length + 1) + 2) / 3 := by
    rw [encodePart, Base64Url.length_encode, write_payloadJson, String.toList_append, String.toList_append,
      utf8Bytes_append, utf8Bytes_append, List.length_append, List.length_append, hclose]
    rfl
  rw [← String.length_toList, toList_encodeToken, messageOf]
  simp only [List.length_append, List.length_cons, length_sign, hpayload]
  omega

theorem length_encodeToken_congr {claims other : SessionClaims} {m n : Nonce} (htext : bareText claims = bareText other)
    {p q : ProviderAccount} (hp : claims.provider = some p) (hq : other.provider = some q)
    (h : (accountBytes p).length = (accountBytes q).length) :
    (encodeToken secret m claims).length = (encodeToken secret n other).length := by
  rw [length_encodeToken, length_encodeToken, htext, hp, hq, length_bytesOf_sealedMember,
    length_bytesOf_sealedMember, h]

end Gatehouse.Session
