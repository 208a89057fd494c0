/-
What reading a token comes to over all instants. `readToken` refuses a token with one error for good, or it
has claims and their window alone decides when they are read; what has expired is then never read again.
A token that is neither `.malformed` nor of a wrong `.signature` was signed with the secret as a session's.
-/
import Gatehouse.Proofs.Json.Record
import Gatehouse.Proofs.Session.RoundTrip

namespace Gatehouse.Session

open Gatehouse.Text Gatehouse.Identity Gatehouse.Time
open Gatehouse.Json (Syntax)

/-! ## Headers -/

/-- The algorithm that a header names. -/
def algorithm? (header : Syntax) : Option String :=
  match header.fields? headerParameters headerParameters.length with
  | some (_ :: some algorithm :: _) => choice? false algorithm
  | _ => none

theorem of_isChoice {name : String} {v : Option Syntax} (h : isChoice [name] v = true) :
    ∃ s, v = some s ∧ choice? false s = some name := by
  unfold isChoice at h
  split at h
  · rename_i s
    obtain ⟨found, hfound, hname⟩ := (Option.any_eq_true _ _).1 h
    have hname : found = name := by simpa using hname
    exact ⟨s, rfl, hname ▸ hfound⟩
  · cases h

theorem algorithm?_of_isHeader {header : Syntax} (h : isHeader header = true) :
    algorithm? header = some signingAlgorithm := by
  unfold isHeader at h
  split at h
  · rename_i fields hfields
    simp only [Bool.and_eq_true] at h
    obtain ⟨⟨⟨⟨⟨⟨⟨⟨⟨-, halgorithm⟩, -⟩, -⟩, -⟩, -⟩, -⟩, -⟩, -⟩, -⟩ := h
    obtain ⟨s, rfl, hs⟩ := of_isChoice halgorithm
    unfold algorithm?
    rw [hfields]
    exact hs
  · cases h

/-! ## Payloads -/

theorem isDatedSecond_of_second? {v : Option Syntax} {t : Instant} (h : second? v = some t) : t.IsDatedSecond := by
  obtain ⟨n, -, hn⟩ := Option.bind_eq_some_iff.1 h
  unfold Instant.ofSeconds? at hn
  split at hn
  · rename_i hdate
    cases hn
    refine ⟨?_, hdate⟩
    rw [Instant.floor, seconds_ofSeconds]
  · cases hn

/-- The claims of a payload are for sessions, their window is made of dates, and they do not expire before 1970. -/
theorem of_claimsOfMembers? {members : List (Option String × Syntax)} {claims : SessionClaims} {blob : Option String}
    (h : claimsOfMembers? members = some (claims, blob)) :
    Json.uniqueMember? members "aud" = some (some (.text audience)) ∧ claims.issuedAt.IsDatedSecond ∧
      claims.expiresAt.IsDatedSecond ∧ 0 ≤ claims.expiresAt.seconds := by
  unfold claimsOfMembers? at h
  obtain ⟨fields, hfields, h⟩ := Option.bind_eq_some_iff.1 h
  split at h
  · rename_i aud _ _ _
    have hnamed := Json.forall₂_of_namedMembers? hfields
    simp only [payloadMembers, List.forall₂_cons] at hnamed
    obtain ⟨-, -, -, -, -, -, -, -, haud, -⟩ := hnamed
    simp only [Option.bind_eq_bind, Option.bind_eq_some_iff] at h
    obtain ⟨_, -, _, -, _, -, _, -, _, -, _, -, _, -, iat, hiat, exp, hexp, _, -, name, hname, h⟩ := h
    split at h
    · rename_i hchecks
      obtain ⟨rfl, hsince, -⟩ := hchecks
      cases h
      refine ⟨?_, isDatedSecond_of_second? hiat, isDatedSecond_of_second? hexp, hsince⟩
      unfold Json.requiredText? at hname
      split at hname
      · cases hname
        exact haud
      · cases hname
    · cases h
  · cases h

theorem of_claimsOfPayload? {bytes : List UInt8} {found : SessionClaims × Option String}
    (h : claimsOfPayload? bytes = some found) :
    ∃ members, Syntax.read bytes = some (.object members) ∧ claimsOfMembers? members = some found := by
  unfold claimsOfPayload? at h
  obtain ⟨s, hs, h⟩ := Option.bind_eq_some_iff.1 h
  split at h
  · split at h
    · exact ⟨_, hs, h⟩
    · cases h
  · cases h

/-! ## Signed tokens -/

variable (secret : SigningSecret)

/-- The parts of a token that was signed with the secret as a session's. -/
structure TokenParts.Authentic (parts : TokenParts) : Prop where
  header : ∃ json, (Base64Url.decode? parts.header).bind Syntax.read = some json ∧
    algorithm? json = some "HS256"
  signature : parts.signature =
    Base64Url.encode (Crypto.Hmac.sha256 secret.bytes (utf8Bytes (parts.header ++ '.' :: parts.payload)))
  payload : ∃ members claims blob, (Base64Url.decode? parts.payload).bind Syntax.read = some (.object members) ∧
    claimsOfMembers? members = some (claims, blob) ∧
    Json.uniqueMember? members "aud" = some (some (.text "dashgate.session")) ∧ 0 ≤ claims.expiresAt.seconds

/-- The token falls into parts that were signed with the secret as a session's. -/
def IsAuthentic (token : String) : Prop :=
  ∃ parts, TokenParts.of? token.toList = some parts ∧
    token.toList = (parts.header ++ '.' :: parts.payload) ++ '.' :: parts.signature ∧
    '.' ∉ parts.payload ∧ '.' ∉ parts.signature ∧ parts.Authentic secret

/-- The claims of a payload with the account that its sealed form holds. -/
def withAccount (claims : SessionClaims) : Option String → Except TokenError SessionClaims
  | none => .ok claims
  | some blob =>
    match unsealAccount? secret blob.toList with
    | none => .error .account
    | some account => .ok { claims with provider := some account }

/-- `withAccount` gives `.account` as the error, or the claims with some `provider`. -/
theorem withAccount_cases (claims : SessionClaims) (blob : Option String) :
    withAccount secret claims blob = .error .account ∨
      ∃ provider, withAccount secret claims blob = .ok { claims with provider := provider } := by
  cases blob with
  | none => exact .inr ⟨claims.provider, rfl⟩
  | some blob =>
    cases haccount : unsealAccount? secret blob.toList with
    | none => exact .inl (by rw [withAccount, haccount])
    | some account => exact .inr ⟨some account, by rw [withAccount, haccount]⟩

/-- `decodeToken` gives `.malformed` or `.signature`, or the token `IsAuthentic` and only its account is left to
decide. -/
theorem decodeToken_cases (token : String) :
    decodeToken secret token = .error .malformed ∨ decodeToken secret token = .error .signature ∨
      ∃ claims blob, IsAuthentic secret token ∧ claims.issuedAt.IsDatedSecond ∧ claims.expiresAt.IsDatedSecond ∧
        decodeToken secret token = withAccount secret claims blob := by
  unfold decodeToken
  split
  · exact .inl rfl
  cases hparts : TokenParts.of? token.toList with
  | none => exact .inl rfl
  | some parts =>
    obtain ⟨htoken, hpayload, hsignature⟩ := eq_of_parts_of? hparts
    simp only
    split
    · exact .inl rfl
    rename_i hheader
    split
    · exact .inr (.inl rfl)
    rename_i hsigned
    cases hclaims : (Base64Url.decode? parts.payload).bind claimsOfPayload? with
    | none => exact .inl rfl
    | some found =>
      obtain ⟨claims, blob⟩ := found
      right; right
      obtain ⟨bytes, hbytes, hclaims⟩ := Option.bind_eq_some_iff.1 hclaims
      obtain ⟨members, hmembers, hclaims⟩ := of_claimsOfPayload? hclaims
      obtain ⟨haudience, hissued, hexpires, hsince⟩ := of_claimsOfMembers? hclaims
      refine ⟨claims, blob, ⟨parts, hparts, htoken, hpayload, hsignature, ?_, ?_, ?_⟩, hissued, hexpires, ?_⟩
      · rw [Bool.not_eq_true, Bool.not_eq_false'] at hheader
        obtain ⟨json, hjson, hnames⟩ := (Option.any_eq_true _ _).1 hheader
        exact ⟨json, hjson, algorithm?_of_isHeader hnames⟩
      · exact not_not.1 hsigned
      · exact ⟨members, claims, blob, by rw [hbytes]; exact hmembers, hclaims, haudience, hsince⟩
      · cases blob with
        | none => rfl
        | some blob => rfl

/-! ## Over time -/

/-- `readToken` gives one error at every instant, and one that has nothing to do with the instant. -/
def AlwaysRefused (token : String) : Prop :=
  ∃ e ∈ [TokenError.malformed, .signature, .account, .window .invalidWindow],
    ∀ now, readToken secret token now = .error e

/-- The token is read as the claims inside their window, which is not empty, and at no other instant. -/
structure ReadsWithin (token : String) (claims : SessionClaims) : Prop where
  isDatedSecond_issuedAt : claims.issuedAt.IsDatedSecond
  isDatedSecond_expiresAt : claims.expiresAt.IsDatedSecond
  lasts : claims.issuedAt < claims.expiresAt
  read : ∀ now, readToken secret token now =
    if now < claims.issuedAt then .error (.window .notYetValid)
    else if now < claims.expiresAt then .ok claims
    else .error (.window .expired)

variable {secret}

theorem readToken_of_decode_error {token : String} {e : TokenError} (h : decodeToken secret token = .error e)
    (now : Instant) : readToken secret token now = .error e := by
  unfold readToken
  rw [h]
  rfl

theorem cases_of_decode {token : String} {claims : SessionClaims} (h : decodeToken secret token = .ok claims)
    (hi : claims.issuedAt.IsDatedSecond) (he : claims.expiresAt.IsDatedSecond) :
    AlwaysRefused secret token ∨ ReadsWithin secret token claims := by
  by_cases hwindow : claims.expiresAt ≤ claims.issuedAt
  · refine .inl ⟨.window .invalidWindow, by decide, ?_⟩
    intro now
    rw [readToken_eq_ite secret h, if_pos hwindow]
  · refine .inr ⟨hi, he, Instant.not_le.1 hwindow, ?_⟩
    intro now
    rw [readToken_eq_ite secret h, if_neg hwindow]

theorem alwaysRefused_or_readsWithin (token : String) :
    AlwaysRefused secret token ∨ ∃ claims, ReadsWithin secret token claims := by
  rcases decodeToken_cases secret token with h | h | ⟨claims, blob, -, hi, he, h⟩
  · exact .inl ⟨.malformed, by decide, readToken_of_decode_error h⟩
  · exact .inl ⟨.signature, by decide, readToken_of_decode_error h⟩
  rcases withAccount_cases secret claims blob with haccount | ⟨provider, haccount⟩
  · exact .inl ⟨.account, by decide, readToken_of_decode_error (h.trans haccount)⟩
  · exact (cases_of_decode (h.trans haccount) hi he).imp_right fun hreads => ⟨_, hreads⟩

theorem ReadsWithin.readToken_issuedAt {token : String} {claims : SessionClaims} (h : ReadsWithin secret token claims) :
    readToken secret token claims.issuedAt = .ok claims := by
  rw [h.read, if_neg (Instant.not_lt.2 (Int.le_refl _)), if_pos h.lasts]

theorem not_readsWithin_of_alwaysRefused {token : String} {claims : SessionClaims} (h : AlwaysRefused secret token) :
    ¬ ReadsWithin secret token claims := by
  intro hreads
  obtain ⟨e, -, hrefused⟩ := h
  have hread := hreads.readToken_issuedAt
  rw [hrefused] at hread
  cases hread

theorem expired_of_le {token : String} {t t' : Instant} (hle : t ≤ t')
    (h : readToken secret token t = .error (.window .expired)) :
    readToken secret token t' = .error (.window .expired) := by
  rcases @alwaysRefused_or_readsWithin secret token with ⟨e, -, hrefused⟩ | ⟨claims, hreads⟩
  · rw [hrefused] at h ⊢
    exact h
  · rw [hreads.read] at h
    split_ifs at h with hstart hend
    · cases h
    · -- both ends of the window lie up to the earlier instant, and so up to the later one
      have hstart' : ¬ t' < claims.issuedAt := fun hlt => hstart (Instant.lt_of_le_of_lt hle hlt)
      have hend' : ¬ t' < claims.expiresAt := fun hlt => hend (Instant.lt_of_le_of_lt hle hlt)
      rw [hreads.read, if_neg hstart', if_neg hend']

theorem isAuthentic_of_readToken {token : String} {now : Instant}
    (hmalformed : readToken secret token now ≠ .error .malformed)
    (hsignature : readToken secret token now ≠ .error .signature) : IsAuthentic secret token := by
  rcases decodeToken_cases secret token with h | h | ⟨_, _, hauthentic, -⟩
  · exact absurd (readToken_of_decode_error h now) hmalformed
  · exact absurd (readToken_of_decode_error h now) hsignature
  · exact hauthentic

/-- For every text `token` exactly one of two things holds. `AlwaysRefused`: `readToken` gives the same one of
`.malformed`, `.signature`, `.account` and `.invalidWindow` at every instant. `ReadsWithin` for some claims: it gives
these claims exactly inside their window, and `.notYetValid` or `.expired` before and after it. Once it gives
`.expired`, it does so at every later instant. Whenever it gives neither `.malformed` nor `.signature`, the token
`IsAuthentic`: an HS256 header, a payload of session claims that do not expire before 1970, and the signature of both
under `secret`. -/
theorem token_over_time (secret : SigningSecret) (token : String) :
    (AlwaysRefused secret token ∨ ∃ claims, ReadsWithin secret token claims) ∧
    ¬ (AlwaysRefused secret token ∧ ∃ claims, ReadsWithin secret token claims) ∧
    (∀ t t' : Instant, t ≤ t' → readToken secret token t = .error (.window .expired) →
      readToken secret token t' = .error (.window .expired)) ∧
    ∀ now, readToken secret token now ≠ .error .malformed → readToken secret token now ≠ .error .signature →
      IsAuthentic secret token := by
  refine ⟨alwaysRefused_or_readsWithin token, ?_, ?_, ?_⟩
  · rintro ⟨hrefused, claims, hreads⟩
    exact not_readsWithin_of_alwaysRefused hrefused hreads
  · intro t t' hle hexpired
    exact expired_of_le hle hexpired
  · intro now hmalformed hsignature
    exact isAuthentic_of_readToken hmalformed hsignature

/-- The claims of the first second of 1970. -/
def firstSecond : SessionClaims :=
  ⟨⟨7⟩, "a@example.com", "a", none, .member, false, .ofSeconds 0, .ofSeconds 1, none⟩

/-- The token of `firstSecond` is `.expired` after its second and still is a century later, and it `IsAuthentic`. -/
theorem token_over_time_first_second :
    readToken ⟨[0], by decide⟩ (encodeToken ⟨[0], by decide⟩ (.ofNat 0) firstSecond) (.ofSeconds 1) =
      .error (.window .expired) ∧
    readToken ⟨[0], by decide⟩ (encodeToken ⟨[0], by decide⟩ (.ofNat 0) firstSecond) (.ofSeconds 3155760000) =
      .error (.window .expired) ∧
    IsAuthentic ⟨[0], by decide⟩ (encodeToken ⟨[0], by decide⟩ (.ofNat 0) firstSecond) := by
  obtain ⟨-, -, hstays, hauthentic⟩ := token_over_time ⟨[0], by decide⟩
    (encodeToken ⟨[0], by decide⟩ (.ofNat 0) firstSecond)
  have hdecode := @decodeToken_encodeToken ⟨[0], by decide⟩ (.ofNat 0) firstSecond (by decide) (by decide)
  rw [if_pos (by decide)] at hdecode
  have hexpired := readToken_eq_ite _ hdecode (.ofSeconds 1)
  rw [if_neg (by decide), if_neg (by decide), if_neg (by decide)] at hexpired
  refine ⟨hexpired, hstays _ _ (by decide) hexpired, hauthentic (.ofSeconds 1) ?_ ?_⟩
  · rw [hexpired]
    decide
  · rw [hexpired]
    decide

end Gatehouse.Session
