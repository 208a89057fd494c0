/-
The signature of a token as a text. It is compared with the one text that signing writes, before anything
of the payload is read, so a header and a payload go together with one text only: base64 that is padded,
cut short or spelled with other spare bits is as wrong as the signature of another token.
-/
import Gatehouse.Proofs.Session.Authentic

namespace Gatehouse.Session

open Gatehouse.Text Gatehouse.Time

/-- The token with another text behind its last dot. -/
def TokenParts.signedWith (parts : TokenParts) (text : List Char) : String :=
  String.ofList (parts.message ++ '.' :: text)

theorem eq_signedWith_of_parts {token : String} {parts : TokenParts} (h : TokenParts.of? token.toList = some parts) :
    token = parts.signedWith parts.signature := by
  obtain ⟨htoken, -, -⟩ := eq_of_parts_of? h
  unfold TokenParts.signedWith
  rw [← htoken, String.ofList_toList]

theorem parts_signedWith {parts : TokenParts} (hpayload : '.' ∉ parts.payload) {text : List Char} (htext : '.' ∉ text) :
    TokenParts.of? (parts.signedWith text).toList = some { parts with signature := text } := by
  unfold TokenParts.signedWith TokenParts.message
  rw [String.toList_ofList]
  exact parts_of?_append parts.header hpayload htext

variable {secret : SigningSecret}

theorem signed_of_readToken {token : String} {now : Instant} (hmalformed : readToken secret token now ≠ .error .malformed)
    (hsignature : readToken secret token now ≠ .error .signature) :
    ∃ parts, TokenParts.of? token.toList = some parts ∧ isHeaderPart parts.header = true ∧
      parts.signature = secret.sign parts.message := by
  apply signed_of_decodeToken
  · intro h
    exact hmalformed (readToken_of_decode_error h now)
  · intro h
    exact hsignature (readToken_of_decode_error h now)

/-- If `readToken` at `now` gives neither `.malformed` nor `.signature` for `token`, its signature is the only text
that is accepted behind its header and payload: with any other text without a dot there, `readToken` gives
`.signature` at every instant. A token with the same `message` for which `readToken` gives neither `.malformed` nor
`.signature`, at any instant, is `token` itself. -/
theorem one_signature_text (secret : SigningSecret) (token : String) (now : Instant)
    (hmalformed : readToken secret token now ≠ .error .malformed)
    (hsignature : readToken secret token now ≠ .error .signature) :
    ∃ parts, TokenParts.of? token.toList = some parts ∧ token = parts.signedWith parts.signature ∧
      (∀ text, '.' ∉ text → text ≠ parts.signature →
        ∀ t, readToken secret (parts.signedWith text) t = .error .signature) ∧
      ∀ token' parts' t, TokenParts.of? token'.toList = some parts' → parts'.message = parts.message →
        readToken secret token' t ≠ .error .malformed → readToken secret token' t ≠ .error .signature →
        token' = token := by
  obtain ⟨parts, hparts, hheader, hsigned⟩ := signed_of_readToken hmalformed hsignature
  refine ⟨parts, hparts, eq_signedWith_of_parts hparts, ?_, ?_⟩
  · intro text hdot htext t
    obtain ⟨-, hpayload, -⟩ := eq_of_parts_of? hparts
    apply readToken_of_decode_error
    apply decodeToken_of_wrong_signature secret (parts_signedWith hpayload hdot) hheader
    rw [hsigned] at htext
    exact htext
  · intro token' parts' t hparts' hmessage hmalformed' hsignature'
    obtain ⟨found, hfound, -, hsigned'⟩ := signed_of_readToken hmalformed' hsignature'
    rw [hparts'] at hfound
    cases hfound
    rw [eq_signedWith_of_parts hparts, eq_signedWith_of_parts hparts', hsigned, hsigned']
    unfold TokenParts.signedWith
    rw [hmessage]

/-- `readToken` reads the token of `firstSecond` in its second, and gives `.signature` for it with its signature
padded. -/
theorem one_signature_text_padded :
    readToken ⟨[0], by decide⟩ (encodeToken ⟨[0], by decide⟩ (.ofNat 0) firstSecond) (.ofSeconds 0) = .ok firstSecond ∧
    ∃ parts, TokenParts.of? (encodeToken ⟨[0], by decide⟩ (.ofNat 0) firstSecond).toList = some parts ∧
      readToken ⟨[0], by decide⟩ (parts.signedWith (parts.signature ++ ['='])) (.ofSeconds 0) = .error .signature := by
  have hread := @readToken_encodeToken ⟨[0], by decide⟩ (.ofNat 0) firstSecond (.ofSeconds 0) (by decide) (by decide)
    (by decide) (by decide) (by decide)
  obtain ⟨parts, hparts, -, hother, -⟩ := one_signature_text ⟨[0], by decide⟩
    (encodeToken ⟨[0], by decide⟩ (.ofNat 0) firstSecond) (.ofSeconds 0) (by rw [hread]; decide) (by rw [hread]; decide)
  obtain ⟨-, -, hdot⟩ := eq_of_parts_of? hparts
  refine ⟨hread, parts, hparts, hother _ ?_ ?_ _⟩
  · simp [hdot]
  · simp

end Gatehouse.Session
