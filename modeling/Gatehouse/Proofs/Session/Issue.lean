/-
Sessions that are issued, and the whole life of a token without an account. A session is issued for
every lifetime of whole seconds that ends at a date; its claims begin at the last whole second, and its
token is read as them until they expire.
-/
import Gatehouse.Proofs.Session.RoundTrip

namespace Gatehouse.Session

open Gatehouse.Identity Gatehouse.Time

variable (secret : SigningSecret) (nonce : Nonce)

/-! ## Claims that are built -/

/-- The claims of an identity for a lifetime that begins at an instant. -/
def claimsFor (identity : Identity) (provider : Option ProviderAccount) (now : Instant) (lifetime : Span) :
    SessionClaims where
  subject := identity.id
  email := identity.email
  name := identity.displayName
  organizationId := identity.organizationId
  role := identity.role
  onboarded := identity.onboarded
  issuedAt := now.floor
  expiresAt := now.floor.plus lifetime
  provider := provider

/-- A lifetime that sessions can have from an instant on. -/
def IsLifetime (now : Instant) (lifetime : Span) : Prop :=
  0 < lifetime.nanos ∧ lifetime.isWhole = true ∧ (now.floor.plus lifetime).isRepresentable = true

instance (now : Instant) (lifetime : Span) : Decidable (IsLifetime now lifetime) :=
  inferInstanceAs (Decidable (_ ∧ _))

theorem build_eq_ite (identity : Identity) (provider : Option ProviderAccount) (now : Instant) (lifetime : Span) :
    SessionClaims.build identity provider now lifetime =
      if IsLifetime now lifetime then .ok (claimsFor identity provider now lifetime)
      else .error .invalidWindow := by
  rw [SessionClaims.build]
  by_cases h : IsLifetime now lifetime
  · obtain ⟨hpos, hwhole, hdate⟩ := id h
    rw [if_neg (by simp [hpos, hwhole, hdate]), if_pos h]
    rfl
  · rw [if_neg h, if_pos]
    simp only [Bool.or_eq_true, decide_eq_true_eq, Bool.not_eq_true']
    by_contra hnone
    simp only [not_or, Int.not_le, Bool.not_eq_false] at hnone
    exact h ⟨hnone.1.1, hnone.1.2, hnone.2⟩

/-- `issueSession` as one equation: it succeeds exactly if the lifetime `IsLifetime`, with the token of `claimsFor`.
-/
theorem issueSession_eq_ite (identity : Identity) (provider : Option ProviderAccount) (lifetime : Span)
    (now : Instant) :
    issueSession secret nonce identity provider lifetime now =
      if IsLifetime now lifetime then
        .ok ⟨encodeToken secret nonce (claimsFor identity provider now lifetime),
          claimsFor identity provider now lifetime⟩
      else .error (.window .invalidWindow) := by
  rw [issueSession, build_eq_ite]
  split <;> rfl

theorem exists_issueSession (identity : Identity) (provider : Option ProviderAccount) {lifetime : Span} {now : Instant}
    (h : IsLifetime now lifetime) :
    ∃ issued, issueSession secret nonce identity provider lifetime now = .ok issued := by
  rw [issueSession_eq_ite, if_pos h]
  exact ⟨_, rfl⟩

theorem eq_of_issueSession {identity : Identity} {provider : Option ProviderAccount} {lifetime : Span}
    {now : Instant} {issued : IssuedSession}
    (h : issueSession secret nonce identity provider lifetime now = .ok issued) :
    IsLifetime now lifetime ∧
      issued = ⟨encodeToken secret nonce (claimsFor identity provider now lifetime),
        claimsFor identity provider now lifetime⟩ := by
  rw [issueSession_eq_ite] at h
  by_cases hlife : IsLifetime now lifetime
  · rw [if_pos hlife] at h
    exact ⟨hlife, (Except.ok.inj h).symm⟩
  · rw [if_neg hlife] at h
    exact nomatch h

/-! ## Reading what was issued -/

theorem isDatedSecond_plus {now : Instant} {lifetime : Span} (h : IsLifetime now lifetime) :
    (now.floor.plus lifetime).IsDatedSecond :=
  ⟨floor_plus (floor_floor now) h.2.1, h.2.2⟩

theorem readToken_issued {identity : Identity} {provider : Option ProviderAccount} {lifetime : Span}
    {now : Instant} {issued : IssuedSession} (hnow : now.isRepresentable = true)
    (h : issueSession secret nonce identity provider lifetime now = .ok issued)
    (hexp : 0 ≤ issued.claims.expiresAt.seconds) {t : Instant} (hlo : now.floor ≤ t)
    (hhi : t < issued.claims.expiresAt) : readToken secret issued.token t = .ok issued.claims := by
  obtain ⟨hlife, rfl⟩ := eq_of_issueSession secret nonce h
  exact readToken_encodeToken secret nonce (isDatedSecond_floor hnow) (isDatedSecond_plus hlife) hexp hlo hhi

/-- A lifetime that ends at a date began at one, from 1970 on. -/
theorem isRepresentable_of_isLifetime {now : Instant} {lifetime : Span} (hsince : 0 ≤ now.nanos)
    (h : IsLifetime now lifetime) : now.isRepresentable = true ∧ 0 ≤ (now.floor.plus lifetime).seconds := by
  obtain ⟨hpos, -, hdate⟩ := h
  obtain ⟨-, hend⟩ := seconds_bounds hdate
  have hplus : (now.floor.plus lifetime).seconds =
      (now.nanos / nanosPerSecond * nanosPerSecond + lifetime.nanos) / nanosPerSecond := rfl
  rw [hplus] at hend ⊢
  simp only [nanosPerSecond, maxSeconds] at hend ⊢
  -- from 1970 on the seconds of the start lie between zero and those of the end
  refine ⟨decide_eq_true ⟨?_, ?_⟩, by omega⟩ <;> simp only [Instant.seconds, nanosPerSecond, minSeconds, maxSeconds] <;>
    omega

theorem decodeToken_issued {identity : Identity} {provider : Option ProviderAccount} {lifetime : Span}
    {now : Instant} {issued : IssuedSession} (hsince : 0 ≤ now.nanos)
    (h : issueSession secret nonce identity provider lifetime now = .ok issued) :
    decodeToken secret issued.token = .ok issued.claims := by
  obtain ⟨hlife, rfl⟩ := eq_of_issueSession secret nonce h
  obtain ⟨hnow, hexp⟩ := isRepresentable_of_isLifetime hsince hlife
  rw [decodeToken_encodeToken secret nonce (isDatedSecond_floor hnow) (isDatedSecond_plus hlife)]
  exact if_pos hexp

theorem toOption_readToken_issued {identity : Identity} {provider : Option ProviderAccount} {lifetime : Span}
    {now : Instant} {issued : IssuedSession} (hsince : 0 ≤ now.nanos)
    (h : issueSession secret nonce identity provider lifetime now = .ok issued) (t : Instant) :
    (readToken secret issued.token t).toOption =
      if now.floor ≤ t ∧ t < now.floor.plus lifetime then some issued.claims else none := by
  have hdecode := decodeToken_issued secret nonce hsince h
  obtain ⟨-, rfl⟩ := eq_of_issueSession secret nonce h
  exact toOption_readToken secret hdecode t

/-! ## The life of a token -/

/-- `readToken` on `encodeToken` of claims without `provider` gives `.malformed` if `expiresAt` lies before 1970;
otherwise `.invalidWindow`, `.notYetValid` or `.expired`, tried in this order, or the claims as they were.
`issueSession` succeeds exactly for a positive `lifetime` of whole seconds whose end is representable. What it issues
begins at the whole second of `now`, lasts for `lifetime`, and is what `readToken` gives from `now` until before
`expiresAt`. -/
theorem token_round_trip :
    (∀ claims : SessionClaims, claims.provider = none → claims.issuedAt.IsDatedSecond →
      claims.expiresAt.IsDatedSecond → ∀ now : Instant,
        readToken secret (encodeToken secret nonce claims) now =
          if claims.expiresAt.seconds < 0 then .error .malformed
          else if claims.expiresAt ≤ claims.issuedAt then .error (.window .invalidWindow)
          else if now < claims.issuedAt then .error (.window .notYetValid)
          else if now < claims.expiresAt then .ok claims
          else .error (.window .expired)) ∧
    ∀ (identity : Identity) (provider : Option ProviderAccount) (lifetime : Span) (now : Instant),
      ((∃ issued, issueSession secret nonce identity provider lifetime now = .ok issued) ↔
        0 < lifetime.nanos ∧ lifetime.nanos % nanosPerSecond = 0 ∧
          (now.floor.plus lifetime).isRepresentable = true) ∧
      ∀ issued, issueSession secret nonce identity provider lifetime now = .ok issued →
        issued.claims.issuedAt = .ofSeconds (now.nanos / nanosPerSecond) ∧
        issued.claims.expiresAt.nanos - issued.claims.issuedAt.nanos = lifetime.nanos ∧
        (now.isRepresentable = true → 0 ≤ issued.claims.expiresAt.seconds →
          ∀ t : Instant, now ≤ t → t < issued.claims.expiresAt →
            readToken secret issued.token t = .ok issued.claims) := by
  refine ⟨fun claims _ hi he now => ?_, fun identity provider lifetime now => ⟨?_, fun issued h => ?_⟩⟩
  · have hdecode := decodeToken_encodeToken secret nonce hi he
    by_cases hexp : claims.expiresAt.seconds < 0
    · rw [if_neg (Int.not_le.2 hexp)] at hdecode
      rw [if_pos hexp, readToken, hdecode]
      rfl
    · rw [if_pos (Int.not_lt.1 hexp)] at hdecode
      rw [if_neg hexp, readToken_eq_ite secret hdecode]
  · have hwhole : lifetime.isWhole = true ↔ lifetime.nanos % nanosPerSecond = 0 := decide_eq_true_iff
    rw [← hwhole]
    constructor
    · rintro ⟨issued, h⟩
      exact (eq_of_issueSession secret nonce h).1
    · intro (hlife : IsLifetime now lifetime)
      exact ⟨_, by rw [issueSession_eq_ite, if_pos hlife]⟩
  · obtain ⟨_, hissued⟩ := eq_of_issueSession secret nonce h
    refine ⟨by rw [hissued]; rfl, ?_, fun hnow hexp t hlo hhi => ?_⟩
    · rw [hissued]
      show now.floor.nanos + lifetime.nanos - now.floor.nanos = lifetime.nanos
      omega
    · exact readToken_issued secret nonce hnow h hexp (Int.le_trans (floor_le now) hlo) hhi

/-- Half a second before 1970 `issueSession` gives a session of two seconds to an identity whose texts hold a quote, a
line feed, a backslash and characters beyond the first plane; `readToken` gives it back after 1970. Claims that end
with the last second before 1970 are `.malformed`. -/
theorem token_round_trip_across_1970 :
    (∃ issued, issueSession ⟨[0], by decide⟩ (.ofNat 0) ⟨⟨7⟩, "a\"b\n", "\\𝔘😀", none, ⟨""⟩, true⟩ none
        (.ofSeconds 2) ⟨-500000000⟩ = .ok issued ∧
      issued.claims.issuedAt = .ofSeconds (-1) ∧
      readToken ⟨[0], by decide⟩ issued.token ⟨999999999⟩ = .ok issued.claims) ∧
    readToken ⟨[0], by decide⟩ (encodeToken ⟨[0], by decide⟩ (.ofNat 0)
      ⟨⟨7⟩, "", "\t", some ⟨8⟩, ⟨"𝔘"⟩, false, .ofSeconds (-2), .ofSeconds (-1), none⟩) ⟨-1500000000⟩ =
        .error .malformed := by
  obtain ⟨hread, hissue⟩ := token_round_trip ⟨[0], by decide⟩ (.ofNat 0)
  obtain ⟨hiff, hall⟩ := hissue ⟨⟨7⟩, "a\"b\n", "\\𝔘😀", none, ⟨""⟩, true⟩ none (.ofSeconds 2) ⟨-500000000⟩
  obtain ⟨issued, h⟩ := hiff.2 (by decide)
  obtain ⟨hstart, hlength, hback⟩ := hall issued h
  have hend : issued.claims.expiresAt.nanos = 1000000000 := by
    rw [hstart] at hlength
    exact Int.sub_eq_iff_eq_add.1 hlength
  refine ⟨⟨issued, h, hstart, hback (by decide) ?_ _ (by decide) ?_⟩, ?_⟩
  · rw [Instant.seconds, hend]; decide
  · show 999999999 < issued.claims.expiresAt.nanos
    rw [hend]; decide
  · exact hread ⟨⟨7⟩, "", "\t", some ⟨8⟩, ⟨"𝔘"⟩, false, .ofSeconds (-2), .ofSeconds (-1), none⟩ rfl (by decide)
      (by decide) ⟨-1500000000⟩

end Gatehouse.Session
