/-
The responses that touch the session cookie. A login either hands out a session that was issued for it,
or fails and sets no cookie; a logout takes the cookie back; no other request sets one.
-/
import Gatehouse.Proofs.App.Gate
import Gatehouse.Proofs.Login.Outcome

namespace Gatehouse.App

open Gatehouse.Access Gatehouse.Http Gatehouse.Identity Gatehouse.Log Gatehouse.Login Gatehouse.Session Gatehouse.Time

/-- The response sets no cookie. -/
def SetsNoCookie (response : Response) : Prop := ∀ field ∈ response.headers, field.1 ≠ "set-cookie"

theorem setsNoCookie_json (status : Nat) (body : Json.Value) : SetsNoCookie (.json status [] body) := by
  simp [SetsNoCookie, Response.json]

theorem setsNoCookie_empty {status : Nat} {name : String} (h : name ≠ "set-cookie") (value : String) :
    SetsNoCookie (.empty status [(name, value)]) := by
  simp [SetsNoCookie, Response.empty, h]

/-- The response tells of a failure and sets no cookie. -/
def Fails (response : Response) : Prop := response.status ≠ 200 ∧ SetsNoCookie response

theorem fails_error {status : Nat} (h : status ≠ 200) (code message : String) : Fails (.error status code message) :=
  ⟨h, setsNoCookie_json _ _⟩

variable {app : App} (service : Service) (nonce : Nonce) (now : Instant) (request : Request)

/-! ## Logins -/

theorem fails_loginFailure (e : LoginError) : Fails (loginFailure e).value := by
  cases e with
  | invalidCredentials => exact fails_error (by decide) _ _
  | unavailable => exact fails_error (by decide) _ _
  | issuance cause => exact fails_error (by decide) _ _

/-- A login hands out the session issued for the identity that its credentials were verified as, or it `Fails`. -/
theorem respondLogin_cases :
    (∃ credentials identity issued value, credentialsOf? request = some credentials ∧
      (verify app.policy service credentials).value.result = .ok identity ∧
      issueSession app.issuer.secret nonce identity none app.issuer.lifetime now = .ok issued ∧
      app.cookie.issue issued.token = .ok value ∧
      (respondLogin app service nonce now request).value.result =
        .json 200 [("set-cookie", value)] (.object [("session", issued.claims.view.json)])) ∨
    Fails (respondLogin app service nonce now request).value.result := by
  rw [respondLogin]
  cases hcredentials : credentialsOf? request with
  | none => exact .inr (fails_error (by decide) _ _)
  | some credentials =>
    simp only [value_bind]
    cases hlogin : (login app.policy app.issuer service credentials nonce now).value.result with
    | error e => exact .inr (fails_loginFailure e)
    | ok issued =>
      simp only [handOut]
      cases hcookie : app.cookie.issue issued.token with
      | error _ => exact .inr (fails_error (by decide) _ _)
      | ok value =>
        obtain ⟨identity, hverify, hissue⟩ := issueSession_of_login _ _ nonce now hlogin
        exact .inl ⟨credentials, identity, issued, value, rfl, hverify, hissue, hcookie, rfl⟩

/-! ## Responses by path -/

/-- The requests that log in. -/
def IsLogin (request : Request) : Prop := request.method = "POST" ∧ request.path = "/api/auth/login"

/-- The requests that log out. -/
def IsLogout (request : Request) : Prop := request.method = "POST" ∧ request.path = "/api/auth/logout"

instance (request : Request) : Decidable (IsLogin request) := inferInstanceAs (Decidable (_ ∧ _))

instance (request : Request) : Decidable (IsLogout request) := inferInstanceAs (Decidable (_ ∧ _))

theorem handle_of_api (h : app.gate.authorizer = .reference)
    (hapi : Route.startsWith (Route.normalize request.path) "/api" = true) :
    (handle app service nonce now request).value =
      (respond app service nonce now (sessionAt app.gate.secret request.headers now) request).value := by
  rw [value_handle service nonce now request h, if_pos]
  cases sessionAt app.gate.secret request.headers now with
  | none => exact .inl hapi
  | some claims => exact .inl hapi

theorem respond_of_at? (endpoint : Endpoint) (session : Option SessionClaims)
    (hpath : Endpoint.at? request.path = some endpoint) (hmethod : request.method ∈ endpoint.methods) :
    (respond app service nonce now session request).value =
      forMethod request.method (respondAt app service nonce now session request endpoint).value := by
  rw [respond, hpath]
  simp only
  rw [if_pos (List.contains_iff_mem.2 hmethod), value_map]

theorem handle_login (h : app.gate.authorizer = .reference) (hlogin : IsLogin request) :
    (handle app service nonce now request).value = (respondLogin app service nonce now request).value := by
  obtain ⟨hmethod, hpath⟩ := hlogin
  rw [handle_of_api service nonce now request h (by rw [hpath]; decide +kernel),
    respond_of_at? service nonce now request .login _ (by rw [hpath]; decide) (by rw [hmethod]; decide), forMethod,
    hmethod, if_neg (by decide)]
  rfl

theorem handle_logout (h : app.gate.authorizer = .reference) (hlogout : IsLogout request) :
    (handle app service nonce now request).value.result = .empty 204 [("set-cookie", app.cookie.clear)] := by
  obtain ⟨hmethod, hpath⟩ := hlogout
  rw [handle_of_api service nonce now request h (by rw [hpath]; decide +kernel),
    respond_of_at? service nonce now request .logout _ (by rw [hpath]; decide) (by rw [hmethod]; decide), forMethod,
    hmethod, if_neg (by decide)]
  rfl

theorem handle_session (h : app.gate.authorizer = .reference) (hmethod : request.method = "GET")
    (hpath : request.path = "/api/auth/session") :
    (handle app service nonce now request).value.result =
      respondSession (sessionAt app.gate.secret request.headers now) := by
  rw [handle_of_api service nonce now request h (by rw [hpath]; decide +kernel),
    respond_of_at? service nonce now request .session _ (by rw [hpath]; decide) (by rw [hmethod]; decide), forMethod,
    hmethod, if_neg (by decide)]
  rfl

/-! ## Everything else -/

/-- The path of an endpoint. -/
def pathOf : Endpoint → String
  | .health => "/api/health"
  | .login => "/api/auth/login"
  | .logout => "/api/auth/logout"
  | .session => "/api/auth/session"

theorem eq_of_at? {path : String} {endpoint : Endpoint} (h : Endpoint.at? path = some endpoint) :
    path = pathOf endpoint := by
  rw [Endpoint.at?] at h
  split_ifs at h with hpath hpath hpath hpath
  all_goals cases h; exact hpath

theorem setsNoCookie_forMethod (method : String) {asked : Asked Response} (h : SetsNoCookie asked.result) :
    SetsNoCookie (forMethod method asked).result := by
  rw [forMethod]
  split_ifs
  · exact h
  · exact h

theorem setsNoCookie_respond (session : Option SessionClaims) (hlogin : ¬ IsLogin request)
    (hlogout : ¬ IsLogout request) : SetsNoCookie (respond app service nonce now session request).value.result := by
  rw [respond]
  cases hat : Endpoint.at? request.path with
  | none => exact setsNoCookie_json _ _
  | some endpoint =>
    have hpath := eq_of_at? hat
    simp only
    split_ifs with hmethod
    · refine setsNoCookie_forMethod request.method ?_
      cases endpoint with
      | health => exact nofun
      | session => cases session <;> exact setsNoCookie_json _ _
      | login => exact absurd ⟨List.mem_singleton.1 (List.contains_iff_mem.1 hmethod), hpath⟩ hlogin
      | logout => exact absurd ⟨List.mem_singleton.1 (List.contains_iff_mem.1 hmethod), hpath⟩ hlogout
    · exact setsNoCookie_empty (by decide) _

theorem setsNoCookie_handle (h : app.gate.authorizer = .reference) (hlogin : ¬ IsLogin request)
    (hlogout : ¬ IsLogout request) : SetsNoCookie (handle app service nonce now request).value.result := by
  rw [value_handle service nonce now request h]
  split_ifs
  · exact setsNoCookie_respond service nonce now request _ hlogin hlogout
  · exact setsNoCookie_empty (by decide) _

end Gatehouse.App
