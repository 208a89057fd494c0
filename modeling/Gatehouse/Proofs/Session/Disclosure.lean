/-
What a token tells its bearer of the provider account: how long the account's JSON is, and nothing else. Two
sessions that are issued to one identity within one second have tokens that differ in the sealed account alone,
one view, and claims that are the same but for the account. Another second changes the digits of the window.
-/
import Gatehouse.Proofs.Session.Authentic
import Gatehouse.Proofs.Session.PayloadText
import Gatehouse.Proofs.Session.Issue

namespace Gatehouse.Session

open Gatehouse.Text Gatehouse.Identity Gatehouse.Time

/-! ## One token beside another -/

/-- The claims with another account or none. -/
def SessionClaims.withProvider (claims : SessionClaims) (provider : Option ProviderAccount) : SessionClaims :=
  { claims with provider := provider }

/-- What two sessions have in common that are the same but for their accounts and the nonces that seal them. -/
structure DifferInAccount (secret : SigningSecret) (m n : Nonce) (account other : Option ProviderAccount)
    (a b : IssuedSession) : Prop where
  header : ∃ header, headerPart? a.token = some header ∧ headerPart? b.token = some header
  payload : ∃ text : String, payloadText? a.token = some (text ++ sealedMember secret m account ++ "\x7d") ∧
    payloadText? b.token = some (text ++ sealedMember secret n other ++ "\x7d")
  view : a.claims.view = b.claims.view
  readAlike : ∀ t, (readToken secret a.token t).map (·.withProvider none) =
    (readToken secret b.token t).map (·.withProvider none)
  readClaims : ∀ s t c d, readToken secret a.token s = .ok c → readToken secret b.token t = .ok d →
    c.withProvider none = d.withProvider none
  length : ∀ p q, account = some p → other = some q →
    (utf8Bytes (accountJson p).write).length = (utf8Bytes (accountJson q).write).length →
    a.token.length = b.token.length

variable (secret : SigningSecret) (m n : Nonce)

/-- But for its account, a token is read in a way that has nothing to do with the account, its nonce or the secret. -/
theorem map_readToken_encodeToken (claims : SessionClaims) (hi : claims.issuedAt.IsDatedSecond)
    (he : claims.expiresAt.IsDatedSecond) (t : Instant) :
    (readToken secret (encodeToken secret m claims) t).map (·.withProvider none) =
      if 0 ≤ claims.expiresAt.seconds then
        (claims.checkWindow t).mapError .window >>= fun _ => .ok (claims.withProvider none)
      else .error .malformed := by
  have hdecode := decodeToken_encodeToken secret m hi he
  by_cases hsince : 0 ≤ claims.expiresAt.seconds
  · rw [if_pos hsince] at hdecode ⊢
    rw [readToken_of_decode secret hdecode]
    cases claims.checkWindow t <;> rfl
  · rw [if_neg hsince] at hdecode ⊢
    rw [readToken_of_decode_error hdecode]
    rfl

theorem eq_of_readToken_encodeToken (claims : SessionClaims) (hi : claims.issuedAt.IsDatedSecond)
    (he : claims.expiresAt.IsDatedSecond) {t : Instant} {read : SessionClaims}
    (h : readToken secret (encodeToken secret m claims) t = .ok read) : read = claims := by
  have hdecode := decodeToken_of_readToken secret h
  rw [decodeToken_encodeToken secret m hi he] at hdecode
  split_ifs at hdecode
  exact (Except.ok.inj hdecode).symm

theorem differInAccount_encodeToken (claims : SessionClaims) (hi : claims.issuedAt.IsDatedSecond)
    (he : claims.expiresAt.IsDatedSecond) (account other : Option ProviderAccount) :
    DifferInAccount secret m n account other
      ⟨encodeToken secret m (claims.withProvider account), claims.withProvider account⟩
      ⟨encodeToken secret n (claims.withProvider other), claims.withProvider other⟩ where
  header := ⟨_, headerPart?_encodeToken secret m _, headerPart?_encodeToken secret n _⟩
  payload := ⟨_, payloadText?_encodeToken secret m _, payloadText?_encodeToken secret n _⟩
  view := rfl
  readAlike t := by
    have ha := map_readToken_encodeToken secret m (claims.withProvider account) hi he t
    have hb := map_readToken_encodeToken secret n (claims.withProvider other) hi he t
    exact ha.trans hb.symm
  readClaims s t c d hc hd := by
    have hc := eq_of_readToken_encodeToken secret m (claims.withProvider account) hi he hc
    have hd := eq_of_readToken_encodeToken secret n (claims.withProvider other) hi he hd
    rw [hc, hd]
    rfl
  length := by
    rintro p q rfl rfl h
    exact length_encodeToken_congr secret rfl rfl rfl h

/-! ## Sessions of one second, and of one identity -/

theorem differInAccount_issueSession {identity : Identity} {lifetime : Span} {now later : Instant}
    (hnow : now.isRepresentable = true) (hsecond : now.floor = later.floor) (hlife : IsLifetime now lifetime)
    (account other : Option ProviderAccount) :
    ∃ a b, issueSession secret m identity account lifetime now = .ok a ∧
      issueSession secret n identity other lifetime later = .ok b ∧ DifferInAccount secret m n account other a b := by
  have hlater : IsLifetime later lifetime := by
    rw [IsLifetime, ← hsecond]
    exact hlife
  have hclaims : claimsFor identity other later lifetime = claimsFor identity other now lifetime := by
    rw [claimsFor, claimsFor, hsecond]
  refine ⟨_, _, by rw [issueSession_eq_ite, if_pos hlife], by rw [issueSession_eq_ite, if_pos hlater], ?_⟩
  rw [hclaims]
  exact differInAccount_encodeToken secret m n (claimsFor identity none now lifetime)
    (isDatedSecond_floor hnow) (isDatedSecond_plus hlife) account other

/-- For a positive `lifetime` of whole seconds and one identity, sessions with any two accounts that begin in the same
second `DifferInAccount`: one header, one payload text but for `sealedMember`, one view, one result of `readToken` but
for `provider`, and one length if the JSON of the accounts has one length. If their end is not representable, both are
refused as `.invalidWindow`. The payload text is a `front` that the identity alone decides, `iat`, `exp`, `aud` and
the `sealedMember`, so that over time only the digits of `iat` and `exp` change. -/
theorem account_is_not_disclosed (identity : Identity) {lifetime : Span} (hpositive : 0 < lifetime.nanos)
    (hwhole : lifetime.nanos % nanosPerSecond = 0) :
    (∀ (m n : Nonce) (account other : Option ProviderAccount) (now later : Instant), now.isRepresentable = true →
      now.floor = later.floor →
        if (now.floor.plus lifetime).isRepresentable then
          ∃ a b, issueSession secret m identity account lifetime now = .ok a ∧
            issueSession secret n identity other lifetime later = .ok b ∧ DifferInAccount secret m n account other a b
        else
          issueSession secret m identity account lifetime now = .error (.window .invalidWindow) ∧
            issueSession secret n identity other lifetime later = .error (.window .invalidWindow)) ∧
    ∃ front : String, ∀ (nonce : Nonce) (account : Option ProviderAccount) (now : Instant) (issued : IssuedSession),
      issueSession secret nonce identity account lifetime now = .ok issued →
        payloadText? issued.token = some (front ++ ",\"iat\":" ++ secondsText now.floor ++ ",\"exp\":" ++
          secondsText (now.floor.plus lifetime) ++ ",\"aud\":\"dashgate.session\"" ++
          sealedMember secret nonce account ++ "\x7d") := by
  have hlife : ∀ now, IsLifetime now lifetime ↔ (now.floor.plus lifetime).isRepresentable = true := fun now =>
    ⟨fun h => h.2.2, fun h => ⟨hpositive, decide_eq_true hwhole, h⟩⟩
  refine ⟨fun m n account other now later hnow hsecond => ?_,
    payloadFront (claimsFor identity none ⟨0⟩ lifetime), fun nonce account now issued h => ?_⟩
  · split_ifs with hdate
    · exact differInAccount_issueSession secret m n hnow hsecond ((hlife now).2 hdate) account other
    · constructor
      · rw [issueSession_eq_ite, if_neg (mt (hlife now).1 hdate)]
      · rw [issueSession_eq_ite, if_neg (mt (hlife later).1 (hsecond ▸ hdate))]
  · obtain ⟨-, rfl⟩ := eq_of_issueSession secret nonce h
    exact payloadText?_encodeToken secret nonce _

/-- Half a second apart, sessions of a minute for an account whose access token holds a quote, and for one that holds
an accent in its place, have tokens of one length and one view. At the end of the minute `readToken` on the second
gives the claims of the first but for `provider`. -/
theorem account_is_not_disclosed_quote_or_accent :
    ∃ a b, issueSession ⟨[0], by decide⟩ (.ofNat 0) ⟨⟨7⟩, "a\"b\n", "\\𝔘😀", none, ⟨""⟩, true⟩
        (some ⟨"github", "x\"y"⟩) (.ofSeconds 60) ⟨1400000000⟩ = .ok a ∧
      issueSession ⟨[0], by decide⟩ (.ofNat 1) ⟨⟨7⟩, "a\"b\n", "\\𝔘😀", none, ⟨""⟩, true⟩
        (some ⟨"github", "xéy"⟩) (.ofSeconds 60) ⟨1900000000⟩ = .ok b ∧
      a.token.length = b.token.length ∧ a.claims.view = b.claims.view ∧
      (readToken ⟨[0], by decide⟩ b.token (.ofSeconds 60)).map (·.withProvider none) =
        .ok (a.claims.withProvider none) := by
  obtain ⟨hpair, -⟩ := account_is_not_disclosed ⟨[0], by decide⟩ ⟨⟨7⟩, "a\"b\n", "\\𝔘😀", none, ⟨""⟩, true⟩
    (show 0 < (Span.ofSeconds 60).nanos by decide) (by decide)
  have hissued := hpair (.ofNat 0) (.ofNat 1) (some ⟨"github", "x\"y"⟩) (some ⟨"github", "xéy"⟩) ⟨1400000000⟩
    ⟨1900000000⟩ (by decide) (by decide)
  rw [if_pos (by decide)] at hissued
  obtain ⟨a, b, ha, hb, hdiffer⟩ := hissued
  have hread : readToken ⟨[0], by decide⟩ a.token (.ofSeconds 60) = .ok a.claims := by
    obtain ⟨-, hclaims⟩ := eq_of_issueSession _ _ ha
    exact readToken_issued _ _ (by decide) ha (by rw [hclaims]; decide) (by decide) (by rw [hclaims]; decide)
  refine ⟨a, b, ha, hb, hdiffer.length _ _ rfl rfl (by decide +kernel), hdiffer.view, ?_⟩
  rw [← hdiffer.readAlike, hread]
  rfl

end Gatehouse.Session
