/-
Logins never want for a session. Accepted settings, the claims, the token and the cookie agree on every
lifetime: a session can be issued from 1970 on until a year before the last date, its token is always a
legal cookie, and the cookie lives exactly as long as the session in it.
-/
import Gatehouse.Proofs.App.Failure

namespace Gatehouse.App

open Gatehouse.Http Gatehouse.Identity Gatehouse.Session Gatehouse.Text Gatehouse.Time

/-! ## Lifetimes -/

theorem isLifetime_of_hasYearLeft {now : Instant} (hnow : now.HasYearLeft) {n : Int} (hlo : 1 ≤ n)
    (hhi : n ≤ maxSessionSeconds) : IsLifetime now (.ofSeconds n) :=
  ⟨Int.mul_pos hlo (by decide), isWhole_ofSeconds n, hnow.isRepresentable_plus (Int.le_trans (by decide) hlo) hhi⟩

variable {app : App} {settings : Settings}

/-! ## What is handed out -/

/-- A session that lasts some seconds is handed out as a cookie of the same lifetime. -/
structure HandsOut (app : App) (seconds : Int) (issued : IssuedSession) (value : String) : Prop where
  /-- The token makes a legal `Set-Cookie` value. -/
  legal : app.cookie.issue issued.token = .ok value
  /-- A client keeps the token as it is. -/
  kept : ∀ slot : Slot, slot.accept value = some issued.token
  /-- The value names its lifetime once. -/
  age : maxAges value = [seconds]
  /-- The token holds the claims of the session. -/
  claims : decodeToken app.gate.secret issued.token = .ok issued.claims
  /-- The claims hold for that lifetime. -/
  lasts : issued.claims.expiresAt.seconds - issued.claims.issuedAt.seconds = seconds

theorem handsOut_of_issueSession (hwired : app.Wired settings) {n : Int}
    (hlifetime : settings.sessionLifetime = .ofSeconds n) {nonce : Nonce} {identity : Identity} {now : Instant}
    (hsince : 0 ≤ now.nanos) {issued : IssuedSession} {value : String}
    (h : issueSession app.issuer.secret nonce identity none app.issuer.lifetime now = .ok issued)
    (hlegal : app.cookie.issue issued.token = .ok value) : HandsOut app n issued value := by
  obtain ⟨hchars, -⟩ := token_of_issueSession h
  rw [hwired.issuer, hlifetime] at h
  obtain ⟨hlife, hissued⟩ := eq_of_issueSession app.gate.secret nonce h
  have hage : app.cookie.lifetime.seconds = n := by
    rw [hwired.cookie, hlifetime, Span.seconds_ofSeconds]
  have hage_ne : app.cookie.lifetime.seconds ≠ 0 := by
    have hpos : 0 < n * nanosPerSecond := hlife.1
    rw [hage]
    rintro rfl
    exact absurd hpos (by decide)
  refine ⟨hlegal, fun slot => accept_issue hchars slot hage_ne hlegal, ?_, decodeToken_issued _ _ hsince h, ?_⟩
  · rw [maxAges_issue hchars hlegal, hage]
  · subst hissued
    show (now.floor.plus (.ofSeconds n)).seconds - now.floor.seconds = n
    rw [seconds_plus_ofSeconds]
    omega

/-! ## Responses -/

theorem status_ne_of_issuable (hwired : app.Wired settings) {x : Exchange} (hlogin : IsLogin x.request)
    (hissue : ∀ identity, ∃ issued,
      issueSession app.issuer.secret x.nonce identity none app.issuer.lifetime x.instant = .ok issued) :
    (x.response app).status ≠ 500 := by
  cases hcredentials : credentialsOf? x.request with
  | none =>
    rw [response_login hwired hlogin, respondLogin, hcredentials]
    show (400 : Nat) ≠ 500
    decide
  | some credentials =>
    have hsubmits : x.Submits credentials := ⟨hlogin, hcredentials⟩
    rcases outcome_cases app x credentials with hfault | houtage | hissuance | ⟨issued, houtcome⟩
    · rw [response_of_loginFault hwired hsubmits hfault]
      decide
    · rw [response_of_submits hwired hsubmits, outcome_of_meetsOutage houtage]
      show (503 : Nat) ≠ 500
      decide
    · obtain ⟨record, identity, e, -, -, herror⟩ := hissuance
      obtain ⟨issued, hok⟩ := hissue identity
      rw [herror] at hok
      cases hok
    · rw [status_of_outcome_ok hwired hsubmits houtcome]
      decide

theorem issue_of_mem_cookiesSet (hwired : app.Wired settings) {x : Exchange} (hlogin : IsLogin x.request)
    {value : String} (h : value ∈ cookiesSet (x.response app)) :
    ∃ identity issued,
      issueSession app.issuer.secret x.nonce identity none app.issuer.lifetime x.instant = .ok issued ∧
      app.cookie.issue issued.token = .ok value := by
  rw [response_login hwired hlogin] at h
  rcases @respondLogin_cases app x.service x.nonce x.instant x.request with
    ⟨_, identity, issued, found, -, -, hissue, hcookie, hvalue⟩ | hfails
  · rw [hvalue] at h
    have hvalue : value = found := List.mem_singleton.1 h
    exact ⟨identity, issued, hissue, by rw [hcookie, hvalue]⟩
  · rw [cookiesSet_of_setsNoCookie hfails.2] at h
    exact absurd h List.not_mem_nil

/-! ## Every login -/

/-- With settings that `Settings.load` accepts, `issueSession` succeeds for every identity at every instant that
`HasYearLeft`, and the app `HandsOut` the session: its token is a legal `Set-Cookie` value, whose `Max-Age` is the
`sessionSeconds?` of the environment and the difference of `exp` and `iat` in the token. A login at such an instant
never has the status 500, and every cookie that it sets `HandsOut` a session. -/
theorem sessions_always_issued {env : Environment} (hload : Settings.load env = .ok settings)
    (happ : App.ofSettings settings = .ok app) :
    ∃ seconds, env.sessionSeconds? = some seconds ∧
      (∀ (identity : Identity) (nonce : Nonce) (now : Instant), now.HasYearLeft → ∃ issued value,
        issueSession app.issuer.secret nonce identity none app.issuer.lifetime now = .ok issued ∧
        HandsOut app seconds issued value) ∧
      ∀ x : Exchange, IsLogin x.request → x.instant.HasYearLeft →
        (x.response app).status ≠ 500 ∧
        ∀ value ∈ cookiesSet (x.response app), ∃ issued, HandsOut app seconds issued value := by
  obtain ⟨-, n, hread, hlifetime⟩ := reads_of_load hload
  obtain ⟨hseconds, hlo, hhi⟩ := sessionSeconds?_of_read hread
  have hwired := App.wired_of_ofSettings happ
  have hissue : ∀ (identity : Identity) (nonce : Nonce) (now : Instant), now.HasYearLeft → ∃ issued,
      issueSession app.issuer.secret nonce identity none app.issuer.lifetime now = .ok issued := by
    intro identity nonce now hnow
    rw [hwired.issuer, hlifetime]
    exact exists_issueSession _ _ _ _ (isLifetime_of_hasYearLeft hnow hlo hhi)
  refine ⟨n, hseconds, ?_, ?_⟩
  · intro identity nonce now hnow
    obtain ⟨issued, h⟩ := hissue identity nonce now hnow
    have hlegal := issue_eq_ok app.cookie (token_of_issueSession h).1
    exact ⟨issued, _, h, handsOut_of_issueSession hwired hlifetime hnow.1 h hlegal⟩
  · intro x hlogin hnow
    constructor
    · exact status_ne_of_issuable hwired hlogin fun identity => hissue identity x.nonce x.instant hnow
    · intro value hvalue
      obtain ⟨identity, issued, h, hlegal⟩ := issue_of_mem_cookiesSet hwired hlogin hvalue
      exact ⟨issued, handsOut_of_issueSession hwired hlifetime hnow.1 h hlegal⟩

/-- The environment of a service whose sessions last as long as they may. -/
def yearlongEnvironment : Environment := fun name =>
  if name = "SESSION_TTL_SECS" then some " 31536000" else localEnvironment name

/-- The last instant that has 365 days left, a nanosecond before the end of its second. -/
def lastIssue : Instant := ⟨lastInstant.nanos - 365 * 24 * 60 * 60 * nanosPerSecond⟩

theorem isSome_yearlongApp :
    (Settings.load yearlongEnvironment >>= App.ofSettings).toOption.isSome = true := by decide +kernel

/-- At `lastIssue` the longest session that `yearlongEnvironment` may ask for is issued, its cookie lives for that
year, and a login does not have the status 500. -/
theorem sessions_always_issued_last_yearlong :
    ∃ settings app, Settings.load yearlongEnvironment = .ok settings ∧ App.ofSettings settings = .ok app ∧
      (∃ issued value,
        issueSession app.issuer.secret (.ofNat 0) ⟨⟨7⟩, "a@example.com", "a", none, .member, true⟩ none
          app.issuer.lifetime lastIssue = .ok issued ∧
        app.cookie.issue issued.token = .ok value ∧ maxAges value = [31536000]) ∧
      (({ firstLogin with instant := lastIssue } : Exchange).response app).status ≠ 500 := by
  obtain ⟨settings, hload, happ⟩ := ofSettings_of_isSome isSome_yearlongApp
  obtain ⟨seconds, hseconds, hissue, hlogins⟩ := sessions_always_issued hload happ
  have hyear : yearlongEnvironment.sessionSeconds? = some 31536000 := by decide +kernel
  rw [hyear] at hseconds
  cases hseconds
  obtain ⟨issued, value, hissued, hhands⟩ := hissue ⟨⟨7⟩, "a@example.com", "a", none, .member, true⟩ (.ofNat 0) lastIssue
    (by decide)
  refine ⟨settings, _, hload, happ, ⟨issued, value, hissued, hhands.legal, hhands.age⟩, ?_⟩
  exact (hlogins _ (by decide +kernel) (by decide)).1

end Gatehouse.App
