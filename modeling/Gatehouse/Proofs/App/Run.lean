/-
Runs of requests by one client that keeps the session cookie. Whatever the requests are, in whatever order
their instants, the slot holds the token of the last login that no logout followed, and so the session that
the application shows is the one that this login returned, for as long as it lasts.
-/
import Gatehouse.Proofs.App.Endpoint
import Gatehouse.Proofs.Http.Client
import Gatehouse.Proofs.Session.Issue

namespace Gatehouse.App

open Gatehouse.Access Gatehouse.Http Gatehouse.Identity Gatehouse.Log Gatehouse.Login Gatehouse.Session Gatehouse.Text Gatehouse.Time

/-! ## Runs -/

/-- A request with all that its answer depends on. -/
structure Exchange where
  instant : Instant
  request : Request
  service : Service
  nonce : Nonce

/-- The answer to a request. -/
def Exchange.response (app : App) (x : Exchange) : Response :=
  (handle app x.service x.nonce x.instant x.request).value.result

/-- The runs of a client with an empty slot at the start: the exchanges so far, the last of them first, and the slot
after them. Each request carries the slot as it then is; the instants are any from 1970 on, in any order. -/
inductive Run (app : App) : List Exchange → Slot → Prop
  | start : Run app [] none
  | next {history : List Exchange} {slot : Slot} {x : Exchange} (hrun : Run app history slot)
      (hsince : 0 ≤ x.instant.nanos) (hsends : slot.Sends x.request.headers) :
      Run app (x :: history) (slot.receive (x.response app))

/-- The exchange is a login, and it succeeds. -/
def Exchange.LogsIn (app : App) (x : Exchange) : Prop := IsLogin x.request ∧ (x.response app).status = 200

instance (app : App) (x : Exchange) : Decidable (x.LogsIn app) := inferInstanceAs (Decidable (_ ∧ _))

/-- The last successful login of a history, unless a logout came after it. -/
def lastLogin? (app : App) : List Exchange → Option Exchange
  | [] => none
  | x :: history =>
    if x.LogsIn app then some x
    else if IsLogout x.request then none
    else lastLogin? app history

/-! ## The slot -/

/-- The body of the exchange holds credentials that are verified as those of an identity. -/
def Exchange.Verifies (app : App) (x : Exchange) (identity : Identity) : Prop :=
  ∃ credentials, credentialsOf? x.request = some credentials ∧
    (verify app.policy x.service credentials).value.result = .ok identity

theorem Exchange.Verifies.unique {app : App} {x : Exchange} {identity identity' : Identity}
    (h : x.Verifies app identity) (h' : x.Verifies app identity') : identity = identity' := by
  obtain ⟨credentials, hcredentials, hverify⟩ := h
  obtain ⟨_, hcredentials', hverify'⟩ := h'
  cases hcredentials.symm.trans hcredentials'
  exact Except.ok.inj (hverify.symm.trans hverify')

/-- A login left the session `issued`: `issueSession` made it for the identity that the login was verified as, and its
view is the `session` in the body of the response. -/
structure Leaves (app : App) (login : Exchange) (issued : IssuedSession) : Prop where
  since : 0 ≤ login.instant.nanos
  issue : ∃ identity, login.Verifies app identity ∧
    issueSession app.issuer.secret login.nonce identity none app.issuer.lifetime login.instant = .ok issued
  body : (login.response app).body = (Json.Value.object [("session", issued.claims.view.json)]).render

/-- The slot is empty when nobody is logged in, and holds the token of the last login otherwise. -/
def Holds (app : App) (slot : Slot) : Option Exchange → Prop
  | none => slot = none
  | some login => ∃ issued, Leaves app login issued ∧ slot = some issued.token

theorem token_of_issueSession {secret : SigningSecret} {nonce : Nonce} {identity : Identity} {lifetime : Span}
    {now : Instant} {issued : IssuedSession}
    (h : issueSession secret nonce identity none lifetime now = .ok issued) :
    (∀ c ∈ issued.token.toList, isDigitOrDot c = true) ∧ issued.token.toList ≠ [] := by
  obtain ⟨-, rfl⟩ := eq_of_issueSession secret nonce h
  exact ⟨isDigitOrDot_encodeToken secret nonce _, toList_encodeToken_ne_nil secret nonce _⟩

theorem receive_login (slot : Slot) {value : String} (body : Json.Value) :
    slot.receive (.json 200 [("set-cookie", value)] body) = slot.accept value := by
  simp [Slot.receive, Response.json]

variable {app : App} {settings : Settings}

theorem receive_logout (slot : Slot) (cookie : SessionCookie) :
    slot.receive (.empty 204 [("set-cookie", cookie.clear)]) = none :=
  accept_setCookie slot (List.not_mem_nil) cookie.secure 0

theorem response_login (hwired : app.Wired settings) {x : Exchange} (h : IsLogin x.request) :
    x.response app = (respondLogin app x.service x.nonce x.instant x.request).value.result := by
  rw [Exchange.response, handle_login _ _ _ _ hwired.authorizer h]

/-- A successful login `Leaves` a session, whose token the slot receives. -/
theorem leaves_of_logsIn (hwired : app.Wired settings) (hlifetime : settings.sessionLifetime.seconds ≠ 0) (slot : Slot)
    {x : Exchange} (hsince : 0 ≤ x.instant.nanos) (h : x.LogsIn app) :
    ∃ issued, Leaves app x issued ∧ slot.receive (x.response app) = some issued.token := by
  obtain ⟨hlogin, hstatus⟩ := h
  have hresponse := response_login hwired hlogin
  rcases @respondLogin_cases app x.service x.nonce x.instant x.request with
    ⟨credentials, identity, issued, value, hcredentials, hverify, hissue, hcookie, hvalue⟩ | hfails
  · rw [hvalue] at hresponse
    refine ⟨issued, ⟨hsince, ⟨identity, ⟨credentials, hcredentials, hverify⟩, hissue⟩, by rw [hresponse]; rfl⟩, ?_⟩
    rw [hresponse, receive_login]
    exact accept_issue (token_of_issueSession hissue).1 slot (by rwa [hwired.cookie]) hcookie
  · -- every other response to a login has another status
    rw [hresponse] at hstatus
    exact absurd hstatus hfails.1

theorem logsIn_of_verifies (hwired : app.Wired settings) {x : Exchange} (h : IsLogin x.request) {identity : Identity}
    (hverifies : x.Verifies app identity) (hlife : IsLifetime x.instant settings.sessionLifetime) : x.LogsIn app := by
  refine ⟨h, ?_⟩
  obtain ⟨credentials, hcredentials, hverify⟩ := hverifies
  obtain ⟨issued, hissue⟩ := exists_issueSession app.gate.secret x.nonce identity none hlife
  have hcookie := issue_eq_ok app.cookie (token_of_issueSession hissue).1
  have hlogin : (login app.policy app.issuer x.service credentials x.nonce x.instant).value.result = .ok issued := by
    rw [result_login_of_verify _ _ _ _ hverify, hwired.issuer, hissue]
    rfl
  rw [response_login hwired h, respondLogin, hcredentials]
  simp only [value_bind, hlogin, handOut, hcookie]
  rfl

theorem receive_other (hwired : app.Wired settings) (slot : Slot) {x : Exchange} (hlogin : ¬ x.LogsIn app)
    (hlogout : ¬ IsLogout x.request) : slot.receive (x.response app) = slot := by
  refine receive_of_forall slot ?_
  by_cases hrequest : IsLogin x.request
  · have hresponse := response_login hwired hrequest
    rcases @respondLogin_cases app x.service x.nonce x.instant x.request with
      ⟨_, _, _, _, -, -, -, -, hvalue⟩ | hfails
    · rw [hvalue] at hresponse
      exact absurd ⟨hrequest, by rw [hresponse]; rfl⟩ hlogin
    · rw [hresponse]
      exact hfails.2
  · exact setsNoCookie_handle _ _ _ _ hwired.authorizer hrequest hlogout

/-- One exchange keeps what the slot holds in step with the last login. -/
theorem holds_step (hwired : app.Wired settings) (hlifetime : settings.sessionLifetime.seconds ≠ 0)
    {history : List Exchange} {slot : Slot} {x : Exchange} (hsince : 0 ≤ x.instant.nanos)
    (h : Holds app slot (lastLogin? app history)) :
    Holds app (slot.receive (x.response app)) (lastLogin? app (x :: history)) := by
  rw [lastLogin?]
  split_ifs with hlogin hlogout
  · exact leaves_of_logsIn hwired hlifetime slot hsince hlogin
  · rw [Exchange.response, handle_logout _ _ _ _ hwired.authorizer hlogout]
    exact receive_logout slot app.cookie
  · rwa [receive_other hwired slot hlogin hlogout]

/-- After every `Run` the slot `Holds` the token of `lastLogin?`, or nothing. -/
theorem holds_of_run (hwired : app.Wired settings) (hlifetime : settings.sessionLifetime.seconds ≠ 0)
    {history : List Exchange} {slot : Slot} (hrun : Run app history slot) :
    Holds app slot (lastLogin? app history) := by
  -- the instants need no order: each step looks only at the slot and at its own response
  induction hrun with
  | start => rfl
  | next _ hsince _ ih => exact holds_step hwired hlifetime hsince ih

/-! ## The session that is shown -/

/-- The session of an identity up to the instant `expiresAt`, as JSON. -/
def shownSession (identity : Identity) (expiresAt : Instant) : Json.Value :=
  .object
    [("id", .text identity.id.render),
     ("email", .text identity.email),
     ("name", .text identity.displayName),
     ("organizationId", identity.organizationId.elim .null fun organization => .text organization.render),
     ("role", .text identity.role.name),
     ("onboardingCompleted", .bool identity.onboarded),
     ("expiresAt", .text expiresAt.render)]

theorem json_view_of_issueSession {secret : SigningSecret} {nonce : Nonce} {identity : Identity} {lifetime : Span}
    {now : Instant} {issued : IssuedSession}
    (h : issueSession secret nonce identity none lifetime now = .ok issued) :
    issued.claims.view.json = shownSession identity (now.floor.plus lifetime) := by
  obtain ⟨-, rfl⟩ := eq_of_issueSession secret nonce h
  simp only [SessionView.json, SessionClaims.view, claimsFor, shownSession]
  cases identity.organizationId <;> rfl

theorem sessionAt_of_leaves (hwired : app.Wired settings) {login : Exchange} {issued : IssuedSession}
    (h : Leaves app login issued) {headers : List Header} (hsends : Slot.Sends (some issued.token) headers)
    (t : Instant) :
    sessionAt app.gate.secret headers t =
      if login.instant.floor ≤ t ∧ t < login.instant.floor.plus settings.sessionLifetime then some issued.claims
      else none := by
  obtain ⟨identity, -, hissue⟩ := h.issue
  rw [hwired.issuer] at hissue
  obtain ⟨hchars, hne⟩ := token_of_issueSession hissue
  rw [← String.ofList_toList (s := issued.token)] at hsends
  rw [sessionAt, sessionToken?_of_cookie hchars hne hsends, String.ofList_toList, Option.bind_some]
  exact toOption_readToken_issued _ _ h.since hissue t

theorem sessionAt_of_empty (secret : SigningSecret) {headers : List Header} (hsends : Slot.Sends none headers)
    (t : Instant) : sessionAt secret headers t = none := by
  rw [sessionAt, sessionToken?_of_empty hsends, Option.bind_none]

/-- After every `Run` of a client against an app whose settings `Settings.load` accepts, a `GET` of
`/api/auth/session` is answered by `null` if `lastLogin?` is `none`. If it is some `login`, the answer is the JSON
object under `session` in the body of the response to `login`, from the whole second of `login` until the
`sessionSeconds?` of the environment later, and `null` at every other instant. That object is the `view` of what
`issueSession` gives for the identity that `login` was verified as. Nothing but a successful login or a logout changes
the slot. -/
theorem session_of_run {env : Environment} (hload : Settings.load env = .ok settings)
    (happ : App.ofSettings settings = .ok app) {history : List Exchange} {slot : Slot} (hrun : Run app history slot) :
    ∃ seconds, env.sessionSeconds? = some seconds ∧
      (∀ x : Exchange, slot.Sends x.request.headers → x.request.method = "GET" → x.request.path = "/api/auth/session" →
        match lastLogin? app history with
        | none => x.response app = .json 200 [] .null
        | some login => ∃ identity issued, login.Verifies app identity ∧
          issueSession app.issuer.secret login.nonce identity none (.ofSeconds seconds) login.instant = .ok issued ∧
          issued.claims.view.json = shownSession identity (login.instant.floor.plus (.ofSeconds seconds)) ∧
          (login.response app).body = (Json.Value.object [("session", issued.claims.view.json)]).render ∧
          x.response app =
            if login.instant.floor ≤ x.instant ∧ x.instant < login.instant.floor.plus (.ofSeconds seconds) then
              .json 200 [] issued.claims.view.json
            else .json 200 [] .null) ∧
      ∀ x : Exchange, ¬ (IsLogin x.request ∧ (x.response app).status = 200) → ¬ IsLogout x.request →
        slot.receive (x.response app) = slot := by
  obtain ⟨-, n, hread, hlifetime⟩ := reads_of_load hload
  obtain ⟨hseconds, hpos, -⟩ := sessionSeconds?_of_read hread
  have hwired := App.wired_of_ofSettings happ
  have hne : settings.sessionLifetime.seconds ≠ 0 := by
    rw [hlifetime, Span.seconds_ofSeconds]
    omega
  refine ⟨n, hseconds, fun x hsends hmethod hpath => ?_,
    fun x hlogin hlogout => receive_other hwired slot hlogin hlogout⟩
  have hholds := holds_of_run hwired hne hrun
  have hresponse : x.response app = respondSession (sessionAt app.gate.secret x.request.headers x.instant) :=
    handle_session _ _ _ _ hwired.authorizer hmethod hpath
  -- what the slot holds decides the session of the request, by the run that led to it
  cases hlogin : lastLogin? app history with
  | none =>
    rw [hlogin] at hholds
    cases hholds
    rw [hresponse, sessionAt_of_empty _ hsends]
    rfl
  | some login =>
    rw [hlogin] at hholds
    obtain ⟨issued, hleaves, rfl⟩ := hholds
    obtain ⟨identity, hverifies, hissue⟩ := hleaves.issue
    have hsession := sessionAt_of_leaves hwired hleaves hsends x.instant
    rw [hwired.issuer, hlifetime] at hissue
    rw [hlifetime] at hsession
    refine ⟨identity, issued, hverifies, by rwa [hwired.issuer], json_view_of_issueSession hissue, hleaves.body, ?_⟩
    rw [hresponse, hsession]
    split_ifs <;> rfl

/-- A login half a second after the start of 1970. -/
def firstLogin : Exchange where
  instant := ⟨500000000⟩
  request :=
    { method := "POST"
      target := "/api/auth/login"
      headers := [⟨"Content-Type", bytesOf "application/json"⟩]
      body := bytesOf "\x7b\"email\":\"a@example.com\",\"password\":\"secret\"\x7d" }
  service := fun _ _ => .silent (.answered (.ok
    ⟨⟨"00000000-0000-0000-0000-000000000007", "a@example.com", none, none, none, true⟩, none⟩))
  nonce := .ofNat 0

/-- The request for the session that a client sends at an instant. -/
def askSession (slot : Slot) (t : Instant) : Exchange where
  instant := t
  request := ⟨"GET", "/api/auth/session", slot.headers, []⟩
  service := fun _ _ => .silent .silence
  nonce := .ofNat 0

theorem path_askSession (slot : Slot) (t : Instant) : (askSession slot t).request.path = "/api/auth/session" := by
  show String.ofList (targetPath "/api/auth/session".toList) = "/api/auth/session"
  decide +kernel

theorem sends_askSession (slot : Slot) (t : Instant) : slot.Sends (askSession slot t).request.headers :=
  slot.sends_headers

/-- Whom that login is verified as. -/
def firstIdentity : Identity := ⟨⟨7⟩, "a@example.com", "a@example.com", none, .member, true⟩

/-- The session that it returns in its body. -/
def firstSession : Json.Value :=
  .object
    [("id", .text "00000000-0000-0000-0000-000000000007"),
     ("email", .text "a@example.com"),
     ("name", .text "a@example.com"),
     ("organizationId", .null),
     ("role", .text "member"),
     ("onboardingCompleted", .bool true),
     ("expiresAt", .text "1970-01-08T00:00:00Z")]

theorem shownSession_firstIdentity :
    shownSession firstIdentity (firstLogin.instant.floor.plus (.ofSeconds 604800)) = firstSession := by
  have hid : firstIdentity.id.render = "00000000-0000-0000-0000-000000000007" := by decide +kernel
  have hend : (firstLogin.instant.floor.plus (.ofSeconds 604800)).render = "1970-01-08T00:00:00Z" := by decide +kernel
  rw [shownSession, hid, hend]
  rfl

theorem verifies_firstLogin (hpolicy : app.policy = localApp.policy) : firstLogin.Verifies app firstIdentity := by
  have hcredentials : credentialsOf? firstLogin.request = some ⟨"a@example.com", "secret"⟩ := by decide +kernel
  have hverify : (verify localApp.policy firstLogin.service ⟨"a@example.com", "secret"⟩).value.result =
      .ok firstIdentity := by decide +kernel
  rw [← hpolicy] at hverify
  exact ⟨_, hcredentials, hverify⟩

theorem logsIn_firstLogin_of (hwired : app.Wired settings) (hpolicy : app.policy = localApp.policy)
    (hlife : IsLifetime firstLogin.instant settings.sessionLifetime) : firstLogin.LogsIn app :=
  logsIn_of_verifies hwired (by decide +kernel) (verifies_firstLogin hpolicy) hlife

theorem logsIn_firstLogin : firstLogin.LogsIn localApp := by
  obtain ⟨settings, -, happ⟩ := ofSettings_local
  have hwired := App.wired_of_ofSettings happ
  have hlifetime : settings.sessionLifetime = .ofSeconds 604800 := by rw [← hwired.cookie]; decide +kernel
  exact logsIn_firstLogin_of hwired rfl (by rw [hlifetime]; decide +kernel)

/-- `firstLogin` returns `firstSession`, which is shown until the last nanosecond of its seven days, and not at the
next. -/
theorem session_of_run_first_login :
    ∃ slot : Slot, Run localApp [firstLogin] slot ∧
      (firstLogin.response localApp).body = (Json.Value.object [("session", firstSession)]).render ∧
      (askSession slot ⟨604799999999999⟩).response localApp = .json 200 [] firstSession ∧
      (askSession slot ⟨604800000000000⟩).response localApp = .json 200 [] .null := by
  obtain ⟨settings, hload, happ⟩ := ofSettings_local
  obtain ⟨slot, hrun⟩ : ∃ slot, Run localApp [firstLogin] slot :=
    ⟨_, .next .start (by decide) ⟨by decide, by decide⟩⟩
  obtain ⟨seconds, hseconds, hshows, -⟩ := session_of_run hload happ hrun
  have hweek : localEnvironment.sessionSeconds? = some 604800 := by decide +kernel
  obtain rfl : seconds = 604800 := Option.some.inj (hseconds.symm.trans hweek)
  have hlast : lastLogin? localApp [firstLogin] = some firstLogin := by
    rw [lastLogin?, if_pos logsIn_firstLogin]
  have hinside : firstLogin.instant.floor ≤ (⟨604799999999999⟩ : Instant) ∧
      (⟨604799999999999⟩ : Instant) < firstLogin.instant.floor.plus (.ofSeconds 604800) := by decide
  have houtside : ¬ ((⟨604800000000000⟩ : Instant) < firstLogin.instant.floor.plus (.ofSeconds 604800)) := by decide
  rw [hlast] at hshows
  obtain ⟨identity, issued, hverifies, -, hjson, hbody, hlate⟩ :=
    hshows (askSession slot ⟨604799999999999⟩) (sends_askSession _ _) rfl (path_askSession _ _)
  obtain ⟨_, _, -, -, -, -, hover⟩ :=
    hshows (askSession slot ⟨604800000000000⟩) (sends_askSession _ _) rfl (path_askSession _ _)
  rw [hverifies.unique (verifies_firstLogin rfl), shownSession_firstIdentity] at hjson
  rw [hjson] at hbody hlate
  exact ⟨slot, hrun, hbody, hlate.trans (if_pos hinside), hover.trans (if_neg fun h => houtside h.2)⟩

end Gatehouse.App
