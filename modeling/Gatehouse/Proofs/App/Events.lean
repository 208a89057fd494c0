/-
The log tells endings and nothing behind them. Two logins, two issues of a session, two requests for one
path that differ in what is secret about them are logged alike, event for event, if they end alike: with one
cause of failure, one error of the token, or one user. What they end with has to be told as finely as the
log tells it, for the reason of a refused login is logged although its response does not show it.
-/
import Gatehouse.Proofs.App.Gate
import Gatehouse.Proofs.Login.Events

namespace Gatehouse.App

open Gatehouse.Access Gatehouse.Http Gatehouse.Identity Gatehouse.Log Gatehouse.Login Gatehouse.Session Gatehouse.Time
open Gatehouse.Backend (Attempt Network attempting service_eq)

/-! ## Sessions -/

/-- What comes of a token: there is none, or it is refused for an error, or it is valid now. -/
def tokenVerdict (secret : SigningSecret) (token : Option String) (now : Instant) : Option (Except TokenError Unit) :=
  token.map fun token => (readToken secret token now).map fun _ => ()

theorem events_currentSession (secret : SigningSecret) (token : Option String) (now : Instant) :
    (currentSession secret token now).events =
      match tokenVerdict secret token now with
      | some (.error e) => [tokenDiscarded e]
      | _ => [] := by
  cases token with
  | none => rfl
  | some token =>
    rw [currentSession, tokenVerdict, Option.map_some]
    cases readToken secret token now <;> rfl

/-! ## The gate -/

/-- What the gate logs of a request: why its token counts for nothing, and where it is sent. -/
def Gate.events (gate : Gate) (path : String) (headers : List Header) (now : Instant) : List Event :=
  (currentSession gate.secret (sessionToken? headers) now).events ++
    let decision := (gate.authorize path headers now).value.decision
    match decision.outcome with
    | .allow => []
    | .redirect redirect => [redirecting path decision.rule redirect.location]

theorem events_authorize (gate : Gate) (path : String) (headers : List Header) (now : Instant) :
    (gate.authorize path headers now).events = (currentSession gate.secret (sessionToken? headers) now).events :=
  List.append_nil _

theorem events_handle (app : App) (service : Service) (nonce : Nonce) (now : Instant) (request : Request) :
    (handle app service nonce now request).events =
      app.gate.events request.path request.headers now ++
        match (app.gate.authorize request.path request.headers now).value.decision.outcome with
        | .allow => (respond app service nonce now (sessionAt app.gate.secret request.headers now) request).events
        | .redirect _ => [] := by
  have hsession : (app.gate.authorize request.path request.headers now).value.session =
      sessionAt app.gate.secret request.headers now := by rw [value_authorize]
  unfold handle Gate.events
  rw [events_bind, events_authorize]
  cases houtcome : (app.gate.authorize request.path request.headers now).value.decision.outcome with
  | allow => simp only [houtcome, hsession, List.append_nil]
  | redirect redirect =>
    simp only [houtcome, List.append_nil]
    rfl

/-! ## Two runs -/

/-- The `events` of two runs that differ in secrets only. `login` logs the same if the runs `EndAlike`: for one failed
check or one `Fault` of the service's answer, for one `TokenError`, or with sessions of one subject and one
`onboarded`. `issueFor` logs the same for all secrets, nonces and access tokens. `currentSession` logs the same for
tokens with one `tokenVerdict`, and so does the gate if its decision is the same too. `handle` logs what the gate
logs, and then what `respond` logs if the gate allows. -/
theorem log_tells_endings_only :
    (∀ (policy : Policy) (lifetime : Span) (attempts : EmailAddress → String → Attempt) (email : String) (now : Instant)
      (x y : Hidden), EndAlike policy lifetime attempts email now x y →
      (login policy ⟨x.secret, lifetime⟩ (attempting attempts) ⟨email, x.password⟩ x.nonce now).events =
        (login policy ⟨y.secret, lifetime⟩ (attempting attempts) ⟨email, y.password⟩ y.nonce now).events) ∧
    (∀ (url : Url.WebUrl) (network : Network), ∃ attempts, Backend.service url network = attempting attempts) ∧
    (∀ (lifetime : Span) (source : Source) (now : Instant) (secret other : SigningSecret) (nonce otherNonce : Nonce)
      (token otherToken : String),
      (issueFor ⟨secret, lifetime⟩ nonce (Source.withAccessToken source token) now).events =
        (issueFor ⟨other, lifetime⟩ otherNonce (Source.withAccessToken source otherToken) now).events) ∧
    (∀ (secret other : SigningSecret) (token otherToken : Option String) (now : Instant),
      tokenVerdict secret token now = tokenVerdict other otherToken now →
      (currentSession secret token now).events = (currentSession other otherToken now).events) ∧
    (∀ (authorizer : Authorizer) (path : String) (now : Instant) (secret other : SigningSecret)
      (headers otherHeaders : List Header),
      tokenVerdict secret (sessionToken? headers) now = tokenVerdict other (sessionToken? otherHeaders) now →
      (Gate.authorize ⟨secret, authorizer⟩ path headers now).value.decision =
        (Gate.authorize ⟨other, authorizer⟩ path otherHeaders now).value.decision →
      Gate.events ⟨secret, authorizer⟩ path headers now = Gate.events ⟨other, authorizer⟩ path otherHeaders now) ∧
    ∀ (app : App) (service : Service) (nonce : Nonce) (now : Instant) (request : Request),
      (handle app service nonce now request).events =
        app.gate.events request.path request.headers now ++
          match (app.gate.authorize request.path request.headers now).value.decision.outcome with
          | .allow => (respond app service nonce now (sessionAt app.gate.secret request.headers now) request).events
          | .redirect _ => [] := by
  refine ⟨fun _ _ _ _ _ _ _ h => events_loginAt_of_endAlike h, fun url network => ⟨_, service_eq url network⟩,
    events_issueFor_withAccessToken, ?_, ?_, events_handle⟩
  · intro secret other token otherToken now hverdict
    rw [events_currentSession, events_currentSession, hverdict]
  · intro authorizer path now secret other headers otherHeaders hverdict hdecision
    unfold Gate.events
    rw [events_currentSession, events_currentSession, hverdict, hdecision]

/-- What is secret about a login with a password under a secret of one byte. -/
def hiddenBy (password : String) (byte : UInt8) : Hidden := ⟨password, ⟨[byte], List.cons_ne_nil _ _⟩, .ofNat byte.toNat⟩

/-- A service that answers 401 to everyone is logged alike for two passwords, and so are `/dashboard` with one
unreadable token or another and under different secrets. -/
theorem log_tells_endings_only_refused :
    let refusing : EmailAddress → String → Attempt := fun _ _ => .inTime (.answered 401 (.whole []))
    let ask := fun token => [(⟨"Cookie", Text.bytesOf ("dashgate.session=" ++ token)⟩ : Header)]
    let gate := fun byte => (⟨⟨[byte], List.cons_ne_nil _ _⟩, .reference⟩ : Gate)
    EndAlike ⟨6, 10000⟩ (.ofSeconds 60) refusing "a@example.com" ⟨0⟩ (hiddenBy "hunter22" 0) (hiddenBy "letmein" 1) ∧
      (loginAt ⟨6, 10000⟩ (.ofSeconds 60) refusing "a@example.com" ⟨0⟩ (hiddenBy "hunter22" 0)).events =
        (loginAt ⟨6, 10000⟩ (.ofSeconds 60) refusing "a@example.com" ⟨0⟩ (hiddenBy "letmein" 1)).events ∧
      (currentSession (gate 0).secret (some "a") ⟨0⟩).events = (currentSession (gate 1).secret (some "b.c") ⟨0⟩).events ∧
      (gate 0).events "/dashboard" (ask "a") ⟨0⟩ = (gate 1).events "/dashboard" (ask "b.c") ⟨0⟩ := by
  intro refusing ask gate
  have hends : EndAlike ⟨6, 10000⟩ (.ofSeconds 60) refusing "a@example.com" ⟨0⟩ (hiddenBy "hunter22" 0)
      (hiddenBy "letmein" 1) :=
    .failed (.attempt (.refused 401)) (by decide +kernel) (by decide +kernel)
  obtain ⟨hlogin, -, -, hsession, hgate, -⟩ := log_tells_endings_only
  refine ⟨hends, hlogin _ _ _ _ _ _ _ hends, ?_, ?_⟩
  · exact hsession _ _ _ _ _ (by decide +kernel)
  · exact hgate _ _ _ _ _ _ _ (by decide +kernel) (by decide +kernel)

/-- With a service that refuses everyone, two passwords have the result `.invalidCredentials`, but for the one that is
too short `weak_password` is logged. With one that refuses them with different statuses both have the failure
`.backendRejected`, and the statuses are logged. -/
theorem passwords_with_one_failure_logged_apart :
    let run := fun attempts password =>
      loginAt ⟨6, 10000⟩ (.ofSeconds 60) attempts "a@example.com" ⟨0⟩ (hiddenBy password 0)
    let refusing : EmailAddress → String → Attempt := fun _ _ => .inTime (.answered 401 (.whole []))
    let choosing : EmailAddress → String → Attempt := fun _ password =>
      .inTime (.answered (if password = "hunter22" then 401 else 403) (.whole []))
    ((run refusing "12345").value.result = .error .invalidCredentials ∧
      (run refusing "hunter22").value.result = .error .invalidCredentials ∧
      (run refusing "12345").events ≠ (run refusing "hunter22").events) ∧
    (verify ⟨6, 10000⟩ (attempting choosing) ⟨"a@example.com", "hunter22"⟩).value.result = .error .backendRejected ∧
      (verify ⟨6, 10000⟩ (attempting choosing) ⟨"a@example.com", "letmein"⟩).value.result = .error .backendRejected ∧
      (run choosing "hunter22").events ≠ (run choosing "letmein").events := by
  intro run refusing choosing
  refine ⟨⟨?_, ?_, ?_⟩, ?_, ?_, ?_⟩
  all_goals decide +kernel

end Gatehouse.App
