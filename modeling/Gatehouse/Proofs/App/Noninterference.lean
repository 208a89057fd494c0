/-
What a response can tell of the credentials in a request. Cookies and authorizations reach it through the
session alone, and the session through its view; a token that is not read now counts as none, and the
provider account and the instant of issue never show.
-/
import Gatehouse.Proofs.App.Run

namespace Gatehouse.App

open Gatehouse.Access Gatehouse.Http Gatehouse.Identity Gatehouse.Log Gatehouse.Login Gatehouse.Session Gatehouse.Time

/-! ## Requests without credentials -/

/-- A header that credentials come in. -/
def isCredential (header : Header) : Bool :=
  ["cookie".toList, "authorization".toList].contains (header.name.toList.map Char.toLower)

/-- The request without the headers that credentials come in. -/
def anonymized (request : Request) : Request :=
  { request with headers := request.headers.filter fun header => !isCredential header }

theorem isCredential_eq {header : Header} {name : String} (h : header.name.toList.map Char.toLower = name.toList) :
    isCredential header = decide (name = "cookie" ∨ name = "authorization") := by
  unfold isCredential
  rw [h, List.contains_eq_mem]
  simp only [List.mem_cons, String.toList_inj, List.not_mem_nil, or_false]

theorem headersNamed_anonymized {name : String} (h : ¬ (name = "cookie" ∨ name = "authorization"))
    (request : Request) : headersNamed name (anonymized request).headers = headersNamed name request.headers := by
  unfold headersNamed anonymized
  rw [List.filter_filter]
  refine List.filter_congr fun header _ => ?_
  by_cases hname : header.name.toList.map Char.toLower = name.toList
  · rw [isCredential_eq hname, decide_eq_false h, Bool.not_false, Bool.and_true]
  · rw [decide_eq_false hname, Bool.false_and]

theorem headersNamed_anonymized_of_credential {name : String} (h : name = "cookie" ∨ name = "authorization")
    (request : Request) : headersNamed name (anonymized request).headers = [] := by
  unfold headersNamed anonymized
  rw [List.filter_filter, List.filter_eq_nil_iff]
  intro header _ hkept
  rw [Bool.and_eq_true, decide_eq_true_eq] at hkept
  obtain ⟨hname, hkept⟩ := hkept
  rw [isCredential_eq hname, decide_eq_true h] at hkept
  cases hkept

theorem path_anonymized (request : Request) : (anonymized request).path = request.path := rfl

theorem method_anonymized (request : Request) : (anonymized request).method = request.method := rfl

/-- The credentials to log in with are in the body, which is told to be JSON by a header of its own. -/
theorem credentialsOf?_anonymized (request : Request) :
    credentialsOf? (anonymized request) = credentialsOf? request := by
  have htype : headersNamed "content-type" (anonymized request).headers = headersNamed "content-type" request.headers :=
    headersNamed_anonymized (by decide) request
  unfold credentialsOf? hasJsonType
  rw [htype]
  rfl

theorem sessionAt_anonymized (secret : SigningSecret) (request : Request) (now : Instant) :
    sessionAt secret (anonymized request).headers now = none :=
  sessionAt_of_empty secret ⟨List.map_eq_nil_iff.2 (headersNamed_anonymized_of_credential (.inl rfl) request),
    headersNamed_anonymized_of_credential (.inr rfl) request⟩ now

theorem anonymized_anonymized (request : Request) : anonymized (anonymized request) = anonymized request := by
  unfold anonymized
  simp only [List.filter_filter, Bool.and_self]

/-! ## Nonces -/

theorem encodeToken_nonce (secret : SigningSecret) (m n : Nonce) {claims : SessionClaims} (h : claims.provider = none) :
    encodeToken secret m claims = encodeToken secret n claims := by
  unfold encodeToken
  simp only [h, Option.map_none]

theorem issueSession_nonce (secret : SigningSecret) (m n : Nonce) (identity : Identity) (lifetime : Span)
    (now : Instant) :
    issueSession secret m identity none lifetime now = issueSession secret n identity none lifetime now := by
  have hprovider : (claimsFor identity none now lifetime).provider = none := rfl
  rw [issueSession_eq_ite, issueSession_eq_ite, encodeToken_nonce secret m n hprovider]

theorem login_nonce (policy : Policy) (issuer : Issuer) (service : Service) (credentials : Credentials)
    (m n : Nonce) (now : Instant) :
    login policy issuer service credentials m now = login policy issuer service credentials n now := by
  have hissue : ∀ identity, issueFor issuer m (.verified identity) now = issueFor issuer n (.verified identity) now := by
    intro identity
    simp only [issueFor, Source.identity, Source.account, issueSession_nonce _ m n]
  unfold login
  simp only [hissue]

/-! ## What a response sees -/

variable (app : App) (service : Service) (m n : Nonce) (now : Instant)

theorem respondLogin_congr {r s : Request} (h : credentialsOf? r = credentialsOf? s) :
    respondLogin app service m now r = respondLogin app service n now s := by
  unfold respondLogin
  simp only [h, login_nonce _ _ _ _ m n]

theorem visitorOf_eq (session : Option SessionClaims) :
    visitorOf session =
      match session.map SessionClaims.view with
      | none => .anonymous
      | some view => .signedIn view.onboarded := by
  cases session <;> rfl

theorem respondSession_eq (session : Option SessionClaims) :
    respondSession session =
      match session.map SessionClaims.view with
      | none => .json 200 [] .null
      | some view => .json 200 [] view.json := by
  cases session <;> rfl

section Requests

variable {r s : Request} (hrequest : anonymized r = anonymized s) {before after : Option SessionClaims}
  (hview : before.map SessionClaims.view = after.map SessionClaims.view)
include hrequest hview

theorem value_respondAt_congr (endpoint : Endpoint) :
    (respondAt app service m now before r endpoint).value = (respondAt app service n now after s endpoint).value := by
  cases endpoint with
  | health => rfl
  | session =>
    unfold respondAt
    rw [respondSession_eq, respondSession_eq, hview]
  | login =>
    have hcredentials : credentialsOf? r = credentialsOf? s := by
      rw [← credentialsOf?_anonymized r, hrequest, credentialsOf?_anonymized]
    exact congrArg Logged.value (respondLogin_congr app service m n now hcredentials)
  | logout => rfl

theorem value_respond_congr :
    (respond app service m now before r).value = (respond app service n now after s).value := by
  unfold respond
  rw [← path_anonymized r, ← method_anonymized r, hrequest, path_anonymized, method_anonymized]
  cases Endpoint.at? s.path with
  | none => rfl
  | some endpoint =>
    simp only
    split_ifs
    · rw [value_map, value_map, value_respondAt_congr app service m n now hrequest hview endpoint]
    · rfl

end Requests

/-- Requests that are equal once `anonymized` have one response in sessions with one `view`. -/
theorem value_handle_congr {r s : Request} (hrequest : anonymized r = anonymized s)
    (hview : (sessionAt app.gate.secret r.headers now).map SessionClaims.view =
      (sessionAt app.gate.secret s.headers now).map SessionClaims.view) :
    (handle app service m now r).value = (handle app service n now s).value := by
  have hpath : r.path = s.path := by rw [← path_anonymized r, hrequest, path_anonymized]
  rw [value_handle_eq, value_handle_eq, hpath, visitorOf_eq, visitorOf_eq, hview,
    value_respond_congr app service m n now hrequest hview]

/-- Requests that are equal but for `Cookie` and `Authorization` headers (`anonymized`) have one response from
`handle`, and one list of calls of the service, whatever nonces are drawn, if `sessionAt` gives no session for both,
or claims with one `view`. A token that `readToken` refuses, with any `TokenError`, leads to the response without
credentials; and claims that differ in `issuedAt` and `provider` lead to the same response. -/
theorem responses_see_views_only :
    (∀ r s : Request, anonymized r = anonymized s →
      (sessionAt app.gate.secret r.headers now).map SessionClaims.view =
        (sessionAt app.gate.secret s.headers now).map SessionClaims.view →
      (handle app service m now r).value = (handle app service n now s).value) ∧
    (∀ (r : Request) (token : String) (e : TokenError), sessionToken? r.headers = some token →
      readToken app.gate.secret token now = .error e →
      (handle app service m now r).value = (handle app service n now (anonymized r)).value) ∧
    ∀ (r s : Request) (claims : SessionClaims) (issuedAt : Instant) (provider : Option ProviderAccount),
      anonymized r = anonymized s → sessionAt app.gate.secret r.headers now = some claims →
      sessionAt app.gate.secret s.headers now = some { claims with issuedAt := issuedAt, provider := provider } →
      (handle app service m now r).value = (handle app service n now s).value := by
  refine ⟨?_, ?_, ?_⟩
  · intro r s hrequest hview
    exact value_handle_congr app service m n now hrequest hview
  · intro r token e htoken hread
    have hnone : sessionAt app.gate.secret r.headers now = none := by
      unfold sessionAt
      rw [htoken, Option.bind_some, hread]
      rfl
    refine value_handle_congr app service m n now (anonymized_anonymized r).symm ?_
    rw [hnone, sessionAt_anonymized]
  · intro r s claims issuedAt provider hrequest hr hs
    refine value_handle_congr app service m n now hrequest ?_
    rw [hr, hs]
    rfl

/-! ## A token with an account -/

/-- The claims of the first minute of 1970, with an account. -/
def firstMinute : SessionClaims :=
  ⟨⟨7⟩, "a@example.com", "a", none, .member, true, .ofSeconds 0, .ofSeconds 60, some ⟨"github", "secret"⟩⟩

/-- An identity service that never replies. -/
def silentService : Service := fun _ _ => .silent .silence

/-- The request for the session with the token of claims in the cookie. -/
def askAs (secret : SigningSecret) (claims : SessionClaims) : Request :=
  ⟨"GET", "/api/auth/session", Slot.headers (some (encodeToken secret (.ofNat 0) claims)), []⟩

theorem sessionToken?_askAs (secret : SigningSecret) (claims : SessionClaims) :
    sessionToken? (askAs secret claims).headers = some (encodeToken secret (.ofNat 0) claims) := by
  have hsends : Slot.Sends (some (encodeToken secret (.ofNat 0) claims)) (askAs secret claims).headers :=
    Slot.sends_headers _
  rw [← String.ofList_toList (s := encodeToken secret (.ofNat 0) claims)] at hsends ⊢
  exact sessionToken?_of_cookie (isDigitOrDot_encodeToken secret _ claims) (toList_encodeToken_ne_nil secret _ claims)
    hsends

theorem isCredential_cookie (value : List UInt8) : isCredential ⟨"cookie", value⟩ = true := by
  have hname : (⟨"cookie", value⟩ : Header).name.toList.map Char.toLower = "cookie".toList := by
    show "cookie".toList.map Char.toLower = "cookie".toList
    decide
  rw [isCredential_eq hname]
  decide

theorem anonymized_askAs (secret : SigningSecret) (claims : SessionClaims) :
    anonymized (askAs secret claims) = ⟨"GET", "/api/auth/session", [], []⟩ := by
  simp only [anonymized, askAs, Slot.headers, Option.toList_some, List.map_cons, List.map_nil, List.filter_cons,
    isCredential_cookie, Bool.not_true, Bool.false_eq_true, if_false, List.filter_nil]

/-- The token of `firstMinute`, with an account, and one issued a second later without it have the same response at
the second second; at the end of the minute the response is that of no session. -/
theorem responses_see_views_only_account :
    (handle localApp silentService (.ofNat 0) (.ofSeconds 2) (askAs localApp.gate.secret firstMinute)).value =
      (handle localApp silentService (.ofNat 1) (.ofSeconds 2)
        (askAs localApp.gate.secret { firstMinute with issuedAt := .ofSeconds 1, provider := none })).value ∧
    (handle localApp silentService (.ofNat 0) (.ofSeconds 60) (askAs localApp.gate.secret firstMinute)).value.result =
      .json 200 [] .null := by
  obtain ⟨settings, -, happ⟩ := ofSettings_local
  have hwired := App.wired_of_ofSettings happ
  -- of the application only the rules of its gate matter
  generalize localApp = app at hwired ⊢
  have hdecode : ∀ claims : SessionClaims, claims.issuedAt.IsDatedSecond → claims.expiresAt = .ofSeconds 60 →
      decodeToken app.gate.secret (encodeToken app.gate.secret (.ofNat 0) claims) = .ok claims := by
    intro claims hi he
    rw [decodeToken_encodeToken _ _ hi (by rw [he]; decide), he, if_pos (by decide)]
  have hsession : ∀ (claims : SessionClaims) (now : Instant), claims.issuedAt.IsDatedSecond →
      claims.expiresAt = .ofSeconds 60 → claims.issuedAt ≤ now → now < .ofSeconds 60 →
      sessionAt app.gate.secret (askAs app.gate.secret claims).headers now = some claims := by
    intro claims now hi he hlo hhi
    rw [sessionAt, sessionToken?_askAs, Option.bind_some,
      readToken_of_window _ (hdecode claims hi he) hlo (by rw [he]; exact hhi)]
    rfl
  obtain ⟨-, -, hhidden⟩ := responses_see_views_only app silentService (.ofNat 0) (.ofNat 1) (.ofSeconds 2)
  obtain ⟨-, hrefused, -⟩ := responses_see_views_only app silentService (.ofNat 0) (.ofNat 0) (.ofSeconds 60)
  constructor
  · exact hhidden _ _ firstMinute (.ofSeconds 1) none ((anonymized_askAs _ _).trans (anonymized_askAs _ _).symm)
      (hsession firstMinute _ (by decide) rfl (by decide) (by decide))
      (hsession _ _ (by decide) rfl (by decide) (by decide))
  · have hexpired := readToken_eq_ite _ (hdecode firstMinute (by decide) rfl) (.ofSeconds 60)
    rw [if_neg (by decide), if_neg (by decide), if_neg (by decide)] at hexpired
    have hpath : (anonymized (askAs app.gate.secret firstMinute)).path = "/api/auth/session" := by
      rw [anonymized_askAs]
      decide +kernel
    rw [hrefused _ _ _ (sessionToken?_askAs _ firstMinute) hexpired,
      handle_session _ _ _ _ hwired.authorizer rfl hpath, sessionAt_anonymized]
    rfl

end Gatehouse.App
