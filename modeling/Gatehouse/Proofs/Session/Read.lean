/-
What it takes for a token to be read. Its last part is the signature of all that stands before it, and
the instant lies in the window of its claims; for claims that are decoded, the window alone decides.
-/
import Gatehouse.Proofs.Except
import Gatehouse.Proofs.Session.Parts
import Gatehouse.Proofs.Time.Instant

namespace Gatehouse.Session

open Gatehouse.Time

variable (secret : SigningSecret)

/-! ## The window -/

theorem readToken_of_decode {token : String} {claims : SessionClaims} (h : decodeToken secret token = .ok claims)
    (now : Instant) :
    readToken secret token now = (claims.checkWindow now).mapError .window >>= fun _ => .ok claims := by
  rw [readToken, h]
  rfl

/-- The window of decoded claims, in the order in which `readToken` asks for it. -/
theorem readToken_eq_ite {token : String} {claims : SessionClaims} (h : decodeToken secret token = .ok claims)
    (now : Instant) :
    readToken secret token now =
      if claims.expiresAt ≤ claims.issuedAt then .error (.window .invalidWindow)
      else if now < claims.issuedAt then .error (.window .notYetValid)
      else if now < claims.expiresAt then .ok claims
      else .error (.window .expired) := by
  rw [readToken_of_decode secret h, SessionClaims.checkWindow]
  by_cases hwindow : claims.expiresAt ≤ claims.issuedAt
  · rw [if_pos hwindow, if_pos hwindow]; rfl
  rw [if_neg hwindow, if_neg hwindow]
  by_cases hstart : now < claims.issuedAt
  · rw [if_pos hstart, if_pos hstart]; rfl
  rw [if_neg hstart, if_neg hstart]
  by_cases hend : now < claims.expiresAt
  · rw [if_neg (Instant.not_le.2 hend), if_pos hend]; rfl
  · rw [if_pos (Instant.not_lt.1 hend), if_neg hend]; rfl

theorem decodeToken_of_readToken {token : String} {now : Instant} {claims : SessionClaims}
    (h : readToken secret token now = .ok claims) : decodeToken secret token = .ok claims := by
  unfold readToken at h
  obtain ⟨decoded, hdecode, h⟩ := bind_eq_ok_iff.1 h
  obtain ⟨-, -, h⟩ := bind_eq_ok_iff.1 h
  rw [hdecode]
  exact h

theorem window_of_readToken {token : String} {now : Instant} {claims : SessionClaims}
    (h : readToken secret token now = .ok claims) : claims.issuedAt ≤ now ∧ now < claims.expiresAt := by
  rw [readToken_eq_ite secret (decodeToken_of_readToken secret h)] at h
  split_ifs at h with _ hstart hend
  exact ⟨Instant.not_lt.1 hstart, hend⟩

theorem readToken_of_window {token : String} {now : Instant} {claims : SessionClaims}
    (h : decodeToken secret token = .ok claims) (hlo : claims.issuedAt ≤ now) (hhi : now < claims.expiresAt) :
    readToken secret token now = .ok claims := by
  have hwindow : ¬ claims.expiresAt ≤ claims.issuedAt := Instant.not_le.2 (Instant.lt_of_le_of_lt hlo hhi)
  rw [readToken_eq_ite secret h, if_neg hwindow, if_neg (Instant.not_lt.2 hlo), if_pos hhi]

theorem toOption_readToken {token : String} {claims : SessionClaims} (h : decodeToken secret token = .ok claims)
    (now : Instant) :
    (readToken secret token now).toOption =
      if claims.issuedAt ≤ now ∧ now < claims.expiresAt then some claims else none := by
  split_ifs with hwindow
  · rw [readToken_of_window secret h hwindow.1 hwindow.2]
    rfl
  · cases hread : readToken secret token now with
    | error e => rfl
    | ok found =>
      -- a token is decoded in one way, so what was read are the claims whose window was missed
      have hfound := decodeToken_of_readToken secret hread
      rw [h] at hfound
      cases hfound
      exact absurd (window_of_readToken secret hread) hwindow

/-! ## The signature -/

theorem decodeToken_of_bad_header {token : String} {parts : TokenParts}
    (hparts : TokenParts.of? token.toList = some parts) (hheader : isHeaderPart parts.header = false) :
    decodeToken secret token = .error .malformed := by
  unfold decodeToken
  rw [isBlankText_of_parts hparts, hparts]
  simp [hheader]

theorem decodeToken_of_wrong_signature {token : String} {parts : TokenParts}
    (hparts : TokenParts.of? token.toList = some parts) (hheader : isHeaderPart parts.header = true)
    (hwrong : parts.signature ≠ secret.sign parts.message) : decodeToken secret token = .error .signature := by
  unfold decodeToken
  rw [isBlankText_of_parts hparts, hparts]
  simp [hheader, hwrong]

/-- A token for which `decodeToken` gives neither `.malformed` nor `.signature` has a header that is accepted and its
own signature. -/
theorem signed_of_decodeToken {token : String} (hmalformed : decodeToken secret token ≠ .error .malformed)
    (hsignature : decodeToken secret token ≠ .error .signature) :
    ∃ parts, TokenParts.of? token.toList = some parts ∧ isHeaderPart parts.header = true ∧
      parts.signature = secret.sign parts.message := by
  cases hparts : TokenParts.of? token.toList with
  | none =>
    refine absurd ?_ hmalformed
    unfold decodeToken
    rw [hparts]
    split <;> rfl
  | some parts =>
    have hheader : isHeaderPart parts.header = true := by
      by_contra hbad
      exact hmalformed (decodeToken_of_bad_header secret hparts (Bool.eq_false_iff.2 hbad))
    refine ⟨parts, rfl, hheader, ?_⟩
    by_contra hwrong
    exact hsignature (decodeToken_of_wrong_signature secret hparts hheader hwrong)

theorem signature_of_decodeToken {token : String} {claims : SessionClaims}
    (h : decodeToken secret token = .ok claims) :
    ∃ message, token.toList = message ++ '.' :: secret.sign message := by
  have hmalformed : decodeToken secret token ≠ .error .malformed := by simp [h]
  have hsignature : decodeToken secret token ≠ .error .signature := by simp [h]
  obtain ⟨parts, hparts, -, hsigned⟩ := signed_of_decodeToken secret hmalformed hsignature
  obtain ⟨htoken, -, -⟩ := eq_of_parts_of? hparts
  exact ⟨parts.message, by rw [htoken, hsigned]⟩

end Gatehouse.Session
