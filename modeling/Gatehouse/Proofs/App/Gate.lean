/-
The gate as a whole: the session that a request's headers carry decides, with the canonical path, whether
the request is answered or sent elsewhere, and nobody has a session without a token that is signed with
the secret and holds now.
-/
import Gatehouse.App.Serve
import Gatehouse.Proofs.Access.Decision
import Gatehouse.Proofs.App.Basic
import Gatehouse.Proofs.Log.Event
import Gatehouse.Proofs.Session.Read

namespace Gatehouse.App

open Gatehouse.Access Gatehouse.Http Gatehouse.Log Gatehouse.Login Gatehouse.Session Gatehouse.Time
open Gatehouse.Text

/-! ## The session of a request -/

/-- The claims that the token of the headers is read as now. -/
def sessionAt (secret : SigningSecret) (headers : List Header) (now : Instant) : Option SessionClaims :=
  (sessionToken? headers).bind fun token => (readToken secret token now).toOption

theorem value_currentSession (secret : SigningSecret) (token : Option String) (now : Instant) :
    (currentSession secret token now).value = token.bind fun token => (readToken secret token now).toOption := by
  cases token with
  | none => rfl
  | some token =>
    rw [currentSession, Option.bind_some]
    cases readToken secret token now <;> rfl

theorem readToken_of_sessionAt {secret : SigningSecret} {headers : List Header} {now : Instant}
    {claims : SessionClaims} (h : sessionAt secret headers now = some claims) :
    ∃ token, sessionToken? headers = some token ∧ readToken secret token now = .ok claims := by
  obtain ⟨token, htoken, hread⟩ := Option.bind_eq_some_iff.1 h
  cases hclaims : readToken secret token now with
  | error e => rw [hclaims] at hread; exact nomatch hread
  | ok found =>
    rw [hclaims] at hread
    cases hread
    exact ⟨token, htoken, hclaims⟩

/-! ## The gate -/

variable {app : App} (service : Service) (nonce : Nonce) (now : Instant) (request : Request)

theorem value_authorize (gate : Gate) (path : String) (headers : List Header) (now : Instant) :
    (gate.authorize path headers now).value =
      ⟨gate.authorizer.authorize path (visitorOf (sessionAt gate.secret headers now)),
        sessionAt gate.secret headers now⟩ := by
  rw [sessionAt, ← value_currentSession]
  rfl

theorem value_handle_eq :
    (handle app service nonce now request).value =
      match (app.gate.authorizer.authorize request.path
        (visitorOf (sessionAt app.gate.secret request.headers now))).outcome with
      | .redirect redirect => ⟨.empty 307 [("location", redirect.location)], []⟩
      | .allow => (respond app service nonce now (sessionAt app.gate.secret request.headers now) request).value := by
  unfold handle
  rw [value_bind, value_authorize]
  simp only
  cases (app.gate.authorizer.authorize request.path
    (visitorOf (sessionAt app.gate.secret request.headers now))).outcome <;> rfl

/-- With `Authorizer.reference` the gate lets through what `Admits` says, and sends all else to its `destination`. -/
theorem value_handle (h : app.gate.authorizer = .reference) :
    (handle app service nonce now request).value =
      if Admits (Route.normalize request.path) (visitorOf (sessionAt app.gate.secret request.headers now)) then
        (respond app service nonce now (sessionAt app.gate.secret request.headers now) request).value
      else
        ⟨.empty 307 [("location", destination (Route.normalize request.path)
          (visitorOf (sessionAt app.gate.secret request.headers now)))], []⟩ := by
  rw [value_handle_eq, h]
  have houtcome := authorize_outcome request.path (visitorOf (sessionAt app.gate.secret request.headers now))
  split_ifs at houtcome ⊢ with hadmits
  · rw [houtcome]
  · rw [houtcome, ← location_redirectOf]

theorem destination_visitorOf (path : String) (session : Option SessionClaims) :
    destination path (visitorOf session) =
      match session with
      | none => "/login?callbackUrl=" ++ String.ofList (Percent.encodeWith staysInCallback path.toList)
      | some claims => if claims.onboarded then "/dashboard" else "/onboarding" := by
  cases session with
  | none => rfl
  | some claims => cases h : claims.onboarded <;> simp only [visitorOf, h] <;> rfl

/-- For settings that `Settings.load` accepts, every request and every instant: `Gate.authorize` has the outcome
`.allow` exactly if the `normalize`d path begins with `/api`, or there is no session and it begins with one of
`signedOutPages`, or there is a session, it begins with none of these, and `onboarded` differs from whether it begins
with `/onboarding`. An allowed request is answered by `respond` in the session `sessionAt` of its headers; any other
by a 307 to `/login` with the escaped path as `callbackUrl`, to `/dashboard` or to `/onboarding`. There is a session
only for a token whose last part is the HMAC under `AUTH_SECRET` of all before its last dot, and only from `issuedAt`
until before `expiresAt`. -/
theorem gate_exact {env : Environment} {settings : Settings} (hload : Settings.load env = .ok settings)
    (happ : App.ofSettings settings = .ok app) :
    let path := Route.normalize request.path
    let session := sessionAt app.gate.secret request.headers now
    ((app.gate.authorize request.path request.headers now).value.decision.outcome = .allow ↔
      Route.startsWith path "/api" = true ∨
      session = none ∧ Route.startsWithAny path Route.signedOutPages = true ∨
      ∃ claims, session = some claims ∧ Route.startsWithAny path Route.signedOutPages = false ∧
        claims.onboarded ≠ Route.startsWith path "/onboarding") ∧
    (handle app service nonce now request).value =
      (if (app.gate.authorize request.path request.headers now).value.decision.outcome = .allow then
        (respond app service nonce now session request).value
      else ⟨.empty 307 [("location",
        match session with
        | none => "/login?callbackUrl=" ++ String.ofList (Percent.encodeWith staysInCallback path.toList)
        | some claims => if claims.onboarded then "/dashboard" else "/onboarding")], []⟩) ∧
    ∀ claims, session = some claims → ∃ secret token message signature,
      env "AUTH_SECRET" = some secret ∧ sessionToken? request.headers = some token ∧
      token.toList = message ++ '.' :: signature ∧ '.' ∉ signature ∧
      signature = Base64Url.encode (Crypto.Hmac.sha256 (bytesOf secret) (utf8Bytes message)) ∧
      readToken app.gate.secret token now = .ok claims ∧ claims.issuedAt ≤ now ∧ now < claims.expiresAt := by
  intro path session
  have hwired := App.wired_of_ofSettings happ
  have houtcome : (app.gate.authorize request.path request.headers now).value.decision.outcome =
      if Admits path (visitorOf session) then .allow else .redirect (redirectOf path (visitorOf session)) := by
    rw [value_authorize, hwired.authorizer, authorize_outcome]
  have hallow : (app.gate.authorize request.path request.headers now).value.decision.outcome = .allow ↔
      Admits path (visitorOf session) := by
    rw [houtcome]
    split_ifs with hadmits <;> simp [hadmits]
  -- the condition is read off the visitor, the answer off the outcome, the token off the session
  refine ⟨?_, ?_, fun claims hsession => ?_⟩
  · rw [hallow]
    cases session with
    | none => simp [visitorOf, Admits]
    | some claims => simp [visitorOf, Admits]
  · rw [value_handle service nonce now request hwired.authorizer]
    simp only [hallow]
    split_ifs with hadmits
    · rfl
    · rw [destination_visitorOf]
  · obtain ⟨token, htoken, hread⟩ := readToken_of_sessionAt hsession
    obtain ⟨message, hmessage⟩ := signature_of_decodeToken _ (decodeToken_of_readToken _ hread)
    obtain ⟨hlo, hhi⟩ := window_of_readToken _ hread
    refine ⟨settings.authSecret, token, message, app.gate.secret.sign message, (of_load hload).1, htoken, hmessage,
      dot_notMem_sign _ _, ?_, hread, hlo, hhi⟩
    rw [SigningSecret.sign, hwired.secret]

/-- The path `/api/%2E./my%20data` is `normalize`d to `/my%20data`, so that without a session it leads to `/login`. -/
theorem gate_exact_climbing_path :
    ∃ settings, Settings.load localEnvironment = .ok settings ∧ App.ofSettings settings = .ok localApp ∧
      (handle localApp (fun _ _ => .silent .silence) (.ofNat 0) ⟨0⟩ ⟨"GET", "/api/%2E./my%20data", [], []⟩).value.result =
        .empty 307 [("location", "/login?callbackUrl=/my%2520data")] := by
  obtain ⟨settings, hload, happ⟩ := ofSettings_local
  refine ⟨settings, hload, happ, ?_⟩
  obtain ⟨hallow, hanswer, -⟩ := gate_exact (fun _ _ => .silent .silence) (.ofNat 0) ⟨0⟩
    ⟨"GET", "/api/%2E./my%20data", [], []⟩ hload happ
  have hsession : sessionAt localApp.gate.secret [] ⟨0⟩ = none := rfl
  have hpath : Route.normalize (Request.path ⟨"GET", "/api/%2E./my%20data", [], []⟩) = "/my%20data" := by
    decide +kernel
  simp only [hsession, hpath] at hallow hanswer
  rw [hanswer, if_neg]
  · decide +kernel
  · rw [hallow]
    rintro (hapi | ⟨-, hpublic⟩ | ⟨claims, hsome, -⟩)
    · exact absurd hapi (by decide +kernel)
    · exact absurd hpublic (by decide +kernel)
    · exact nomatch hsome

end Gatehouse.App
