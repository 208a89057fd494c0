/-
Failed logins look alike. Whatever is wrong with the credentials, or with what the identity service
makes of them, the response is one and the same, down to its last byte; only an outage and a session
that cannot be issued are told apart from it. A login sets the cookie exactly when it succeeds.
-/
import Gatehouse.Proofs.App.Run
import Gatehouse.Proofs.Login.Outcome

namespace Gatehouse.App

open Gatehouse.Http Gatehouse.Identity Gatehouse.Log Gatehouse.Login Gatehouse.Session Gatehouse.Text Gatehouse.Time

/-! ## Logins with credentials -/

/-- The exchange is a login whose body names the credentials. -/
def Exchange.Submits (x : Exchange) (credentials : Credentials) : Prop :=
  IsLogin x.request ∧ credentialsOf? x.request = some credentials

/-- The identity service's reply to the credentials, if they are passed on. -/
def Exchange.reply? (app : App) (x : Exchange) (credentials : Credentials) : Option Reply :=
  match credentials.check app.policy.minPasswordLength with
  | .error _ => none
  | .ok address => some (x.service address credentials.password).value

/-- What comes of the credentials. -/
def Exchange.outcome (app : App) (x : Exchange) (credentials : Credentials) : Except LoginError IssuedSession :=
  (login app.policy app.issuer x.service credentials x.nonce x.instant).value.result

/-- The credentials met with an outage of the identity service. -/
def Exchange.MeetsOutage (app : App) (x : Exchange) (credentials : Credentials) : Prop :=
  ∃ reply, x.reply? app credentials = some reply ∧ IsOutage reply

/-- No session could be issued for the identity of the credentials. -/
def Exchange.MeetsIssuanceError (app : App) (x : Exchange) (credentials : Credentials) : Prop :=
  ∃ record identity e, x.reply? app credentials = some (.answered (.ok record)) ∧ record.identity = .ok identity ∧
    issueSession app.issuer.secret x.nonce identity none app.issuer.lifetime x.instant = .error e

/-- A login with credentials fails, neither for an outage nor for want of a session that can be issued. -/
structure Exchange.FailsOtherwise (app : App) (x : Exchange) (credentials : Credentials) : Prop where
  submits : x.Submits credentials
  fails : (x.response app).status ≠ 200
  noOutage : ¬ x.MeetsOutage app credentials
  noIssuanceError : ¬ x.MeetsIssuanceError app credentials

/-- What may be wrong with credentials, or with the reply to them. -/
inductive LoginFault (app : App) (x : Exchange) (credentials : Credentials) : Prop
  | missingField (h : isBlankText credentials.email = true ∨ credentials.password = "")
  | malformedEmail (h : ¬ IsAddress (trim credentials.email))
  | shortPassword (h : credentials.password.length < app.policy.minPasswordLength)
  | rejected (status : Option Nat) (h : x.reply? app credentials = some (.answered (.error (.rejected status))))
  | malformed (cause : Defect) (h : x.reply? app credentials = some (.answered (.error (.malformed cause))))
  | unusableRecord (record : LoginRecord) (e : IdentityError)
      (h : x.reply? app credentials = some (.answered (.ok record))) (hidentity : record.identity = .error e)

variable {app : App} {x : Exchange} {credentials : Credentials}

theorem loginFault_of_not_passesChecks (h : ¬ PassesChecks app.policy.minPasswordLength credentials) :
    LoginFault app x credentials := by
  by_cases hemail : IsAddress (trim credentials.email)
  · by_cases hpassword : credentials.password = ""
    · exact .missingField (.inr hpassword)
    · by_cases hlength : app.policy.minPasswordLength ≤ credentials.password.length
      · exact absurd ⟨hemail, hpassword, hlength⟩ h
      · exact .shortPassword (Nat.lt_of_not_le hlength)
  · exact .malformedEmail hemail

theorem loginFault_of_isRefusal {reply : Reply} (hreply : x.reply? app credentials = some reply) (h : IsRefusal reply) :
    LoginFault app x credentials := by
  rcases h with ⟨status, rfl⟩ | ⟨cause, rfl⟩ | ⟨record, e, rfl, hidentity⟩
  · exact .rejected status hreply
  · exact .malformed cause hreply
  · exact .unusableRecord record e hreply hidentity

/-- A `LoginFault` is one of the credentials, which then fail `PassesChecks`, or a reply that `IsRefusal`. -/
theorem cases_of_loginFault (h : LoginFault app x credentials) :
    ¬ PassesChecks app.policy.minPasswordLength credentials ∨
      ∃ reply, x.reply? app credentials = some reply ∧ IsRefusal reply := by
  cases h with
  | missingField h =>
    left
    intro hpasses
    rcases h with hblank | hpassword
    · exact not_isAddress_of_isBlankText hblank hpasses.email
    · exact hpasses.password hpassword
  | malformedEmail h => exact .inl fun hpasses => h hpasses.email
  | shortPassword h => exact .inl fun hpasses => absurd hpasses.length (Nat.not_le.2 h)
  | rejected status h => exact .inr ⟨_, h, .inl ⟨status, rfl⟩⟩
  | malformed cause h => exact .inr ⟨_, h, .inr (.inl ⟨cause, rfl⟩)⟩
  | unusableRecord record e h hidentity => exact .inr ⟨_, h, .inr (.inr ⟨record, e, rfl, hidentity⟩)⟩

/-! ## What comes of them -/

theorem outcome_of_not_passesChecks (h : ¬ PassesChecks app.policy.minPasswordLength credentials) :
    x.reply? app credentials = none ∧ x.outcome app credentials = .error .invalidCredentials := by
  obtain ⟨e, hcheck⟩ := exists_error_of_not_passesChecks h
  constructor
  · unfold Exchange.reply?
    rw [hcheck]
  · unfold Exchange.outcome
    rw [login_of_check_error _ _ _ _ hcheck]

theorem outcome_of_passesChecks (h : PassesChecks app.policy.minPasswordLength credentials) :
    ∃ reply, x.reply? app credentials = some reply ∧
      x.outcome app credentials = (afterReply app.policy app.issuer x.nonce x.instant reply).value := by
  obtain ⟨address, hcheck, -⟩ := exists_check_of_passesChecks h
  refine ⟨(x.service address credentials.password).value, ?_, ?_⟩
  · unfold Exchange.reply?
    rw [hcheck]
  · unfold Exchange.outcome
    rw [login_of_check_ok _ _ _ _ hcheck]
    rfl

theorem outcome_of_reply? {reply : Reply} (h : x.reply? app credentials = some reply) :
    x.outcome app credentials = (afterReply app.policy app.issuer x.nonce x.instant reply).value := by
  by_cases hpasses : PassesChecks app.policy.minPasswordLength credentials
  · obtain ⟨found, hfound, houtcome⟩ := @outcome_of_passesChecks app x credentials hpasses
    rw [h] at hfound
    cases hfound
    exact houtcome
  · obtain ⟨hnone, -⟩ := @outcome_of_not_passesChecks app x credentials hpasses
    rw [h] at hnone
    cases hnone

/-- Credentials end in a `LoginFault`, an outage, an error of `issueSession` or a session. -/
theorem outcome_cases (app : App) (x : Exchange) (credentials : Credentials) :
    LoginFault app x credentials ∨ x.MeetsOutage app credentials ∨ x.MeetsIssuanceError app credentials ∨
      ∃ issued, x.outcome app credentials = .ok issued := by
  by_cases hpasses : PassesChecks app.policy.minPasswordLength credentials
  · obtain ⟨reply, hreply, houtcome⟩ := @outcome_of_passesChecks app x credentials hpasses
    rcases reply_cases reply with houtage | hrefusal | ⟨record, identity, rfl, hidentity⟩
    · exact .inr (.inl ⟨reply, hreply, houtage⟩)
    · exact .inl (loginFault_of_isRefusal hreply hrefusal)
    · rw [value_afterReply_of_identity _ _ _ _ hidentity] at houtcome
      cases hissue : issueSession app.issuer.secret x.nonce identity none app.issuer.lifetime x.instant with
      | error e => exact .inr (.inr (.inl ⟨record, identity, e, hreply, hidentity, hissue⟩))
      | ok issued =>
        rw [hissue] at houtcome
        exact .inr (.inr (.inr ⟨issued, houtcome⟩))
  · exact .inl (loginFault_of_not_passesChecks hpasses)

theorem outcome_of_loginFault (h : LoginFault app x credentials) :
    x.outcome app credentials = .error .invalidCredentials := by
  rcases cases_of_loginFault h with hfails | ⟨reply, hreply, hrefusal⟩
  · exact (outcome_of_not_passesChecks hfails).2
  · rw [outcome_of_reply? hreply]
    exact value_afterReply_of_isRefusal _ _ _ _ hrefusal

theorem outcome_of_meetsOutage (h : x.MeetsOutage app credentials) :
    x.outcome app credentials = .error .unavailable := by
  obtain ⟨reply, hreply, houtage⟩ := h
  rw [outcome_of_reply? hreply]
  exact value_afterReply_of_isOutage _ _ _ _ houtage

theorem outcome_of_meetsIssuanceError (h : x.MeetsIssuanceError app credentials) :
    ∃ e, x.outcome app credentials = .error (.issuance e) := by
  obtain ⟨record, identity, e, hreply, hidentity, hissue⟩ := h
  refine ⟨e, ?_⟩
  rw [outcome_of_reply? hreply, value_afterReply_of_identity _ _ _ _ hidentity, hissue]
  rfl

/-! ## Responses -/

variable {settings : Settings}

/-- The response to every login that fails for a fault. -/
def refusedLogin : Response := .error 401 "invalid_credentials" "invalid email or password"

theorem response_of_submits (hwired : app.Wired settings) (h : x.Submits credentials) :
    x.response app =
      match x.outcome app credentials with
      | .error e => (loginFailure e).value
      | .ok issued => (handOut app.cookie issued).value := by
  rw [response_login hwired h.1]
  unfold respondLogin Exchange.outcome
  rw [h.2]
  simp only [value_bind]
  cases (login app.policy app.issuer x.service credentials x.nonce x.instant).value.result <;> rfl

theorem response_of_loginFault (hwired : app.Wired settings) (h : x.Submits credentials)
    (hfault : LoginFault app x credentials) : x.response app = refusedLogin := by
  rw [response_of_submits hwired h, outcome_of_loginFault hfault]
  rfl

theorem status_of_outcome_ok (hwired : app.Wired settings) (h : x.Submits credentials) {issued : IssuedSession}
    (houtcome : x.outcome app credentials = .ok issued) : (x.response app).status = 200 := by
  obtain ⟨identity, -, hissue⟩ := issueSession_of_login _ _ x.nonce x.instant houtcome
  have hcookie := issue_eq_ok app.cookie (token_of_issueSession hissue).1
  rw [response_of_submits hwired h, houtcome]
  simp only [handOut, hcookie]
  rfl

/-- A `LoginFault` is all that a login with credentials can fail for otherwise. -/
theorem failsOtherwise_iff (hwired : app.Wired settings) :
    x.FailsOtherwise app credentials ↔ x.Submits credentials ∧ LoginFault app x credentials := by
  constructor
  · intro h
    refine ⟨h.submits, ?_⟩
    rcases outcome_cases app x credentials with hfault | houtage | hissuance | ⟨issued, houtcome⟩
    · exact hfault
    · exact absurd houtage h.noOutage
    · exact absurd hissuance h.noIssuanceError
    · exact absurd (status_of_outcome_ok hwired h.submits houtcome) h.fails
  · rintro ⟨hsubmits, hfault⟩
    have houtcome := outcome_of_loginFault hfault
    refine ⟨hsubmits, ?_, ?_, ?_⟩
    · rw [response_of_loginFault hwired hsubmits hfault]
      decide
    · intro houtage
      rw [outcome_of_meetsOutage houtage] at houtcome
      cases houtcome
    · intro hissuance
      obtain ⟨e, he⟩ := outcome_of_meetsIssuanceError hissuance
      rw [he] at houtcome
      cases houtcome

/-! ## Cookies -/

/-- The cookies that a response sets. -/
def cookiesSet (response : Response) : List String :=
  (response.headers.filter fun field => field.1 = "set-cookie").map Prod.snd

theorem cookiesSet_of_setsNoCookie {response : Response} (h : SetsNoCookie response) : cookiesSet response = [] := by
  unfold cookiesSet
  rw [List.map_eq_nil_iff, List.filter_eq_nil_iff]
  intro field hfield
  simpa using h field hfield

theorem length_cookiesSet_of_login (hwired : app.Wired settings) (h : IsLogin x.request) :
    (cookiesSet (x.response app)).length = if (x.response app).status = 200 then 1 else 0 := by
  rw [response_login hwired h]
  rcases @respondLogin_cases app x.service x.nonce x.instant x.request with
    ⟨_, _, _, _, -, -, -, -, hvalue⟩ | hfails
  · rw [hvalue]
    rfl
  · rw [cookiesSet_of_setsNoCookie hfails.2, if_neg hfails.1]
    rfl

/-- All logins with credentials that `FailsOtherwise`, so for neither an outage nor an error of `issueSession`, have
one response: the same status, headers and body. `FailsOtherwise` holds exactly for a login that submits credentials
with a `LoginFault`: a missing field, a malformed email, a short password, a reply `.rejected` with any status or
`.malformed`, or a record without an identity. A response to a login sets one cookie if its status is 200, and none
otherwise. -/
theorem failed_logins_alike (happ : App.ofSettings settings = .ok app) :
    (∀ (x y : Exchange) (c d : Credentials), x.FailsOtherwise app c → y.FailsOtherwise app d →
      x.response app = y.response app) ∧
    (∀ (x : Exchange) (c : Credentials), x.FailsOtherwise app c ↔ x.Submits c ∧ LoginFault app x c) ∧
    ∀ x : Exchange, IsLogin x.request →
      (cookiesSet (x.response app)).length = if (x.response app).status = 200 then 1 else 0 := by
  have hwired := App.wired_of_ofSettings happ
  refine ⟨?_, fun x c => failsOtherwise_iff hwired, fun x => length_cookiesSet_of_login hwired⟩
  intro x y c d hx hy
  obtain ⟨hsubmitsX, hfaultX⟩ := (failsOtherwise_iff hwired).1 hx
  obtain ⟨hsubmitsY, hfaultY⟩ := (failsOtherwise_iff hwired).1 hy
  calc
    x.response app = refusedLogin := response_of_loginFault hwired hsubmitsX hfaultX
    _ = y.response app := (response_of_loginFault hwired hsubmitsY hfaultY).symm

/-- A login with a body, at the start of 1970, to an identity service that always replies alike. -/
def loginAttempt (body : String) (reply : Reply) : Exchange where
  instant := ⟨0⟩
  request := ⟨"POST", "/api/auth/login", [⟨"Content-Type", bytesOf "application/json"⟩], bytesOf body⟩
  service := fun _ _ => .silent reply
  nonce := .ofNat 0

/-- An empty object as the body and credentials that the service rejects with 403 have the same response, which sets
no cookie. -/
theorem failed_logins_alike_empty_and_forbidden :
    (loginAttempt "\x7b\x7d" .silence).response localApp =
      (loginAttempt "\x7b\"email\":\"a@example.com\",\"password\":\"secret\"\x7d"
        (.answered (.error (.rejected (some 403))))).response localApp ∧
    cookiesSet ((loginAttempt "\x7b\x7d" .silence).response localApp) = [] := by
  obtain ⟨settings, -, happ⟩ := ofSettings_local
  obtain ⟨halike, hiff, hcookies⟩ := failed_logins_alike happ
  have hlogin : ∀ body reply, IsLogin (loginAttempt body reply).request := by
    intro body reply
    exact ⟨rfl, by show String.ofList (targetPath "/api/auth/login".toList) = _; decide +kernel⟩
  have hempty : (loginAttempt "\x7b\x7d" .silence).FailsOtherwise localApp ⟨"", ""⟩ :=
    (hiff _ _).2 ⟨⟨hlogin _ _, by decide +kernel⟩, .missingField (.inr rfl)⟩
  have hforbidden : (loginAttempt "\x7b\"email\":\"a@example.com\",\"password\":\"secret\"\x7d"
      (.answered (.error (.rejected (some 403))))).FailsOtherwise localApp ⟨"a@example.com", "secret"⟩ := by
    refine (hiff _ _).2 ⟨⟨hlogin _ _, by decide +kernel⟩, .rejected (some 403) ?_⟩
    have hpasses : PassesChecks localApp.policy.minPasswordLength ⟨"a@example.com", "secret"⟩ := by decide +kernel
    obtain ⟨address, hcheck, -⟩ := exists_check_of_passesChecks hpasses
    unfold Exchange.reply?
    rw [hcheck]
    rfl
  refine ⟨halike _ _ _ _ hempty hforbidden, ?_⟩
  have hcount := hcookies _ (hlogin "\x7b\x7d" .silence)
  rw [if_neg hempty.fails] at hcount
  exact List.eq_nil_of_length_eq_zero hcount

end Gatehouse.App
