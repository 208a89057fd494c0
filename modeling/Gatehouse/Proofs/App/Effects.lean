/-
Which requests have effects. The gate judges a path by its canonical form and the endpoints are found by the
path as it is spelled; the two agree, because every endpoint is open to everyone, a redirect runs none of
them, and only the exact spelling reaches what asks the identity service or sets a cookie.
-/
import Gatehouse.Proofs.App.Endpoint
import Gatehouse.Proofs.Route.Path

namespace Gatehouse.App

open Gatehouse.Access Gatehouse.Http Gatehouse.Log Gatehouse.Login Gatehouse.Session Gatehouse.Text Gatehouse.Time

/-! ## The gate -/

theorem authorize_of_api {authorizer : Authorizer} {path : String}
    (h : Route.startsWith (Route.normalize path) authorizer.routes.api = true) (visitor : Visitor) :
    authorizer.authorize path visitor = .pass .apiPassthrough := if_pos h

theorem startsWith_api_pathOf (endpoint : Endpoint) :
    Route.startsWith (Route.normalize (pathOf endpoint)) "/api" = true := by
  cases endpoint
  all_goals decide +kernel

theorem normalize_pathOf (endpoint : Endpoint) : Route.normalize (pathOf endpoint) = pathOf endpoint := by
  cases endpoint
  all_goals decide +kernel

variable {app : App} (service : Service) (nonce : Nonce) (now : Instant) (request : Request)

/-- A redirect is all that `handle` makes of a request that the gate sends away, whatever `service` and `nonce` are.
-/
theorem handle_of_redirect {redirect : Redirect}
    (h : (app.gate.authorize request.path request.headers now).value.decision.outcome = .redirect redirect) :
    handle app service nonce now request =
      ⟨⟨.empty 307 [("location", redirect.location)], []⟩,
        (app.gate.authorize request.path request.headers now).events ++
          [redirecting request.path (app.gate.authorize request.path request.headers now).value.decision.rule
            redirect.location]⟩ := by
  unfold handle
  refine Logged.eq_of ?_ ?_
  · simp only [value_bind, h]
    rfl
  · simp only [events_bind, h]
    rfl

theorem handle_of_allow (h : (app.gate.authorize request.path request.headers now).value.decision.outcome = .allow) :
    ∃ events, ∀ service : Service, handle app service nonce now request =
      ⟨(respond app service nonce now (sessionAt app.gate.secret request.headers now) request).value,
        events ++ (respond app service nonce now (sessionAt app.gate.secret request.headers now) request).events⟩ := by
  refine ⟨(app.gate.authorize request.path request.headers now).events, fun service => ?_⟩
  have hsession : (app.gate.authorize request.path request.headers now).value.session =
      sessionAt app.gate.secret request.headers now := by rw [value_authorize]
  unfold handle
  refine Logged.eq_of ?_ ?_
  · simp only [value_bind, h, hsession]
  · simp only [events_bind, h, hsession]

/-! ## The identity service -/

theorem forMethod_nil (method : String) (response : Response) :
    ∃ answer, forMethod method ⟨response, []⟩ = ⟨answer, []⟩ := by
  unfold forMethod
  split_ifs
  · exact ⟨_, rfl⟩
  · exact ⟨_, rfl⟩

theorem respondAt_of_ne_login {endpoint : Endpoint} (h : endpoint ≠ .login) (session : Option SessionClaims) :
    ∃ response events, ∀ service : Service,
      respondAt app service nonce now session request endpoint = ⟨⟨response, []⟩, events⟩ := by
  cases endpoint with
  | health => exact ⟨_, _, fun _ => rfl⟩
  | login => exact absurd rfl h
  | logout => exact ⟨_, _, fun _ => rfl⟩
  | session => exact ⟨_, _, fun _ => rfl⟩

/-- `respond` to anything but a login never calls the service, and gives the same with every one. -/
theorem respond_of_not_login (h : ¬ IsLogin request) (session : Option SessionClaims) :
    ∃ response events, ∀ service : Service,
      respond app service nonce now session request = ⟨⟨response, []⟩, events⟩ := by
  unfold respond
  cases hat : Endpoint.at? request.path with
  | none => exact ⟨_, _, fun _ => rfl⟩
  | some endpoint =>
    simp only
    split_ifs with hmethod
    · have hendpoint : endpoint ≠ .login := by
        rintro rfl
        exact h ⟨List.mem_singleton.1 (List.contains_iff_mem.1 hmethod), eq_of_at? hat⟩
      obtain ⟨response, events, hrespond⟩ := respondAt_of_ne_login nonce now request hendpoint session
      obtain ⟨answer, hanswer⟩ := forMethod_nil request.method response
      refine ⟨answer, events, fun service => ?_⟩
      rw [hrespond service]
      refine Logged.eq_of hanswer ?_
      exact List.append_nil events
    · exact ⟨_, _, fun _ => rfl⟩

theorem handle_of_not_login (h : ¬ IsLogin request) :
    ∃ response events, ∀ service : Service, handle app service nonce now request = ⟨⟨response, []⟩, events⟩ := by
  cases houtcome : (app.gate.authorize request.path request.headers now).value.decision.outcome with
  | redirect redirect => exact ⟨_, _, fun service => handle_of_redirect service nonce now request houtcome⟩
  | allow =>
    obtain ⟨events, hhandle⟩ := handle_of_allow nonce now request houtcome
    obtain ⟨response, more, hrespond⟩ :=
      respond_of_not_login nonce now request h (sessionAt app.gate.secret request.headers now)
    refine ⟨response, events ++ more, fun service => ?_⟩
    rw [hhandle service, hrespond service]

theorem calls_respondLogin {credentials : Credentials} (h : credentialsOf? request = some credentials) :
    (respondLogin app service nonce now request).value.calls =
      (login app.policy app.issuer service credentials nonce now).value.calls := by
  unfold respondLogin
  rw [h]
  simp only [value_bind]
  cases (login app.policy app.issuer service credentials nonce now).value.result <;> rfl

theorem calls_respondLogin_ne_nil_iff :
    (respondLogin app service nonce now request).value.calls ≠ [] ↔
      ∃ credentials, credentialsOf? request = some credentials ∧
        PassesChecks app.policy.minPasswordLength credentials := by
  cases hcredentials : credentialsOf? request with
  | none =>
    have hnone : (respondLogin app service nonce now request).value.calls = [] := by
      unfold respondLogin
      rw [hcredentials]
      rfl
    exact iff_of_false (fun h => h hnone) nofun
  | some credentials =>
    simp only [Option.some_inj]
    rw [calls_respondLogin service nonce now request hcredentials, exists_eq_left']
    by_cases hpasses : PassesChecks app.policy.minPasswordLength credentials
    · obtain ⟨address, hcheck, -⟩ := exists_check_of_passesChecks hpasses
      rw [login_of_check_ok _ _ _ _ hcheck]
      exact iff_of_true (List.cons_ne_nil _ _) hpasses
    · obtain ⟨e, hcheck⟩ := exists_error_of_not_passesChecks hpasses
      rw [login_of_check_error _ _ _ _ hcheck]
      exact iff_of_false (fun h => h rfl) hpasses

theorem calls_handle_ne_nil_iff (h : app.gate.authorizer = .reference) :
    (handle app service nonce now request).value.calls ≠ [] ↔
      IsLogin request ∧ ∃ credentials, credentialsOf? request = some credentials ∧
        PassesChecks app.policy.minPasswordLength credentials := by
  by_cases hlogin : IsLogin request
  · rw [handle_login service nonce now request h hlogin, calls_respondLogin_ne_nil_iff, and_iff_right hlogin]
  · obtain ⟨response, events, hhandle⟩ := @handle_of_not_login app nonce now request hlogin
    rw [hhandle service]
    exact iff_of_false (fun hcalls => hcalls rfl) fun hboth => hlogin hboth.1

/-! ## Cookies -/

theorem not_exists_of_setsNoCookie {response : Response} (h : SetsNoCookie response) :
    ¬ ∃ field ∈ response.headers, field.1 = "set-cookie" := by
  rintro ⟨field, hfield, hname⟩
  exact h field hfield hname

theorem sets_cookie_iff (h : app.gate.authorizer = .reference) :
    (∃ field ∈ (handle app service nonce now request).value.result.headers, field.1 = "set-cookie") ↔
      IsLogout request ∨
        IsLogin request ∧ (handle app service nonce now request).value.result.status = 200 := by
  by_cases hlogout : IsLogout request
  · rw [handle_logout service nonce now request h hlogout]
    exact iff_of_true ⟨_, List.mem_singleton_self _, rfl⟩ (.inl hlogout)
  by_cases hlogin : IsLogin request
  · rw [handle_login service nonce now request h hlogin]
    rcases respondLogin_cases service nonce now request with
      ⟨_, _, _, value, -, -, -, -, hresponse⟩ | ⟨hstatus, hcookies⟩
    · rw [hresponse]
      exact iff_of_true ⟨_, List.mem_cons_self, rfl⟩ (.inr ⟨hlogin, rfl⟩)
    · exact iff_of_false (not_exists_of_setsNoCookie hcookies) (not_or.2 ⟨hlogout, fun hboth => hstatus hboth.2⟩)
  · have hcookies := setsNoCookie_handle service nonce now request h hlogin hlogout
    exact iff_of_false (not_exists_of_setsNoCookie hcookies) (not_or.2 ⟨hlogout, fun hboth => hlogin hboth.1⟩)

/-! ## Spellings -/

theorem handle_of_other_spelling (h : app.gate.authorizer = .reference) {endpoint : Endpoint}
    (hpath : Route.normalize request.path = pathOf endpoint) (hspelling : request.path ≠ pathOf endpoint) :
    (handle app service nonce now request).value = ⟨notFound request.path, []⟩ := by
  have hapi : Route.startsWith (Route.normalize request.path) "/api" = true := by
    rw [hpath, ← normalize_pathOf]
    exact startsWith_api_pathOf endpoint
  have hnone : Endpoint.at? request.path = none := by
    cases hat : Endpoint.at? request.path with
    | none => rfl
    | some other =>
      -- a path that is found is canonical, so it would be the endpoint's own
      rw [eq_of_at? hat, normalize_pathOf, ← eq_of_at? hat] at hpath
      exact absurd hpath hspelling
  rw [handle_of_api service nonce now request h hapi, respond, hnone]
  rfl

theorem exists_pathOf {path : String}
    (h : path ∈ ["/api/health", "/api/auth/login", "/api/auth/logout", "/api/auth/session"]) :
    ∃ endpoint, pathOf endpoint = path := by
  simp only [List.mem_cons, List.not_mem_nil, or_false] at h
  rcases h with rfl | rfl | rfl | rfl
  · exact ⟨.health, rfl⟩
  · exact ⟨.login, rfl⟩
  · exact ⟨.logout, rfl⟩
  · exact ⟨.session, rfl⟩

/-- In every app that `App.ofSettings` makes, a request whose path is spelled exactly as one of the four endpoints
passes the gate, whatever its headers, visitor and instant; a path that only `normalize`s to one is answered by 404
`not_found`. A redirected request is answered by 307 and the location, and nothing else depends on service or nonce.
The service is called exactly for a `POST` to `/api/auth/login` with credentials that pass `PassesChecks`, and no
other request depends on it. `set-cookie` is in the response exactly for a `POST` to `/api/auth/logout`, and for one
to `/api/auth/login` with the status 200. -/
theorem effects_by_exact_path {settings : Settings} (happ : App.ofSettings settings = .ok app) :
    let answer := handle app service nonce now request
    (∀ path ∈ ["/api/health", "/api/auth/login", "/api/auth/logout", "/api/auth/session"],
      (request.path = path →
        (∀ visitor, (app.gate.authorizer.authorize request.path visitor).outcome = .allow) ∧
        ∀ (headers : List Header) (t : Instant),
          (app.gate.authorize request.path headers t).value.decision.outcome = .allow) ∧
      (Route.normalize request.path = path → request.path ≠ path →
        answer.value = ⟨.error 404 "not_found" ("no handler for " ++ request.path), []⟩)) ∧
    (∀ redirect, (app.gate.authorize request.path request.headers now).value.decision.outcome = .redirect redirect →
      answer.value = ⟨.empty 307 [("location", redirect.location)], []⟩ ∧
      ∀ (other : Service) (m : Nonce), handle app other m now request = answer) ∧
    (answer.value.calls ≠ [] ↔
      (request.method = "POST" ∧ request.path = "/api/auth/login") ∧
        ∃ credentials, credentialsOf? request = some credentials ∧
          PassesChecks app.policy.minPasswordLength credentials) ∧
    (¬ (request.method = "POST" ∧ request.path = "/api/auth/login") →
      ∀ other : Service, handle app other nonce now request = answer) ∧
    ((∃ field ∈ answer.value.result.headers, field.1 = "set-cookie") ↔
      (request.method = "POST" ∧ request.path = "/api/auth/logout") ∨
        (request.method = "POST" ∧ request.path = "/api/auth/login") ∧ answer.value.result.status = 200) := by
  intro answer
  have hreference := (App.wired_of_ofSettings happ).authorizer
  refine ⟨fun path hmem => ?_, fun redirect houtcome => ?_,
    calls_handle_ne_nil_iff service nonce now request hreference, fun hlogin other => ?_,
    sets_cookie_iff service nonce now request hreference⟩
  · obtain ⟨endpoint, rfl⟩ := exists_pathOf hmem
    constructor
    · intro hpath
      have hallow : ∀ visitor, (app.gate.authorizer.authorize request.path visitor).outcome = .allow := by
        intro visitor
        have hapi : Route.startsWith (Route.normalize (pathOf endpoint)) Authorizer.reference.routes.api = true :=
          startsWith_api_pathOf endpoint
        rw [hreference, hpath, authorize_of_api hapi]
        rfl
      refine ⟨hallow, fun headers t => ?_⟩
      rw [value_authorize]
      exact hallow _
    · exact handle_of_other_spelling service nonce now request hreference
  · have hhandle := fun (other : Service) (m : Nonce) => handle_of_redirect other m now request houtcome
    refine ⟨congrArg Logged.value (hhandle service nonce), fun other m => ?_⟩
    exact (hhandle other m).trans (hhandle service nonce).symm
  · obtain ⟨response, events, hhandle⟩ := @handle_of_not_login app nonce now request hlogin
    exact (hhandle other).trans (hhandle service).symm

/-- A login by way of `..` and two slashes passes the gate and gets 404, while the same credentials on the path itself
are asked of the service. -/
theorem effects_by_exact_path_detour :
    let post := fun target => handle localApp (fun _ _ => .silent .silence) (.ofNat 0) ⟨0⟩ ⟨"POST", target,
      [⟨"Content-Type", bytesOf "application/json"⟩],
      bytesOf "\x7b\"email\":\"a@example.com\",\"password\":\"secret\"\x7d"⟩
    (post "/x/%2E./api//auth/login").value =
        ⟨.error 404 "not_found" "no handler for /x/%2E./api//auth/login", []⟩ ∧
      (post "/api/auth/login").value.calls ≠ [] := by
  intro post
  obtain ⟨settings, -, happ⟩ := ofSettings_local
  have heffects := fun target => effects_by_exact_path (fun _ _ => .silent .silence) (.ofNat 0) ⟨0⟩
    ⟨"POST", target, [⟨"Content-Type", bytesOf "application/json"⟩],
      bytesOf "\x7b\"email\":\"a@example.com\",\"password\":\"secret\"\x7d"⟩ happ
  constructor
  · obtain ⟨hspellings, -⟩ := heffects "/x/%2E./api//auth/login"
    exact (hspellings "/api/auth/login" (by decide)).2 (by decide +kernel) (by decide +kernel)
  · obtain ⟨-, -, hcalls, -⟩ := heffects "/api/auth/login"
    exact hcalls.2 ⟨⟨rfl, by decide +kernel⟩, ⟨"a@example.com", "secret"⟩, by decide +kernel, by decide +kernel⟩

end Gatehouse.App
