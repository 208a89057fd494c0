/-
The decision on one request, from who asks and what class of path is asked for, and the `Location` of a
redirect. The first rule that fits decides, and the order matters: a signed-in user is sent away from the
pages for signed-out users before those pages are found to be public. A callback is added to the target of
a redirect as one more query parameter: its segments are escaped one by one, so that the slashes between
them stay readable.
-/
import Gatehouse.Route.Path
import Gatehouse.Route.Table
import Gatehouse.Text.Basic

namespace Gatehouse.Access

open Gatehouse.Route Gatehouse.Text

/-! ## Redirects -/

/-- Where a redirect sends the user, and the path to come back to. -/
structure Redirect where
  target : String
  callback : Option String
  deriving DecidableEq, Repr

/-- The query parameter that holds the path to come back to. -/
def callbackParameter : String := "callbackUrl"

/-- A callback as a query value: everything but the unreserved characters and the slash escaped. -/
def encodeCallback (callback : List Char) : List Char :=
  List.intercalate ['/'] ((callback.splitOn '/').map Percent.encode)

/-- The value of the `Location` header. -/
def Redirect.location (redirect : Redirect) : String :=
  match redirect.callback with
  | none => redirect.target
  | some callback =>
    let separator := if redirect.target.toList.contains '?' then "&" else "?"
    redirect.target ++ separator ++ callbackParameter ++ "=" ++
      String.ofList (encodeCallback callback.toList)

/-! ## Decisions -/

/-- Who asks. -/
inductive Visitor where
  | anonymous
  | signedIn (onboarded : Bool)
  deriving DecidableEq, Repr

/-- Where each kind of redirect leads. -/
structure RedirectTargets where
  login : String
  onboarding : String
  dashboardHome : String
  deriving DecidableEq, Repr

/-- The pages of the dashboard. -/
def RedirectTargets.reference : RedirectTargets where
  login := "/login"
  onboarding := "/onboarding"
  dashboardHome := "/dashboard"

/-- The rule that decided. -/
inductive Rule where
  | apiPassthrough
  | signedInOnAuthOnlyRoute
  | publicRoute
  | signInRequired
  | onboardingRequired
  | onboardingAlreadyCompleted
  | default
  deriving DecidableEq, Repr

/-- The name of a rule in the log. -/
def Rule.name : Rule → String
  | .apiPassthrough => "ApiPassthrough"
  | .signedInOnAuthOnlyRoute => "SignedInOnAuthOnlyRoute"
  | .publicRoute => "PublicRoute"
  | .signInRequired => "SignInRequired"
  | .onboardingRequired => "OnboardingRequired"
  | .onboardingAlreadyCompleted => "OnboardingAlreadyCompleted"
  | .default => "Default"

/-- What becomes of the request. -/
inductive Outcome where
  | allow
  | redirect (redirect : Redirect)
  deriving DecidableEq, Repr

/-- An outcome and the rule behind it. -/
structure Decision where
  rule : Rule
  outcome : Outcome
  deriving DecidableEq, Repr

/-- The request passes. -/
def Decision.pass (rule : Rule) : Decision := ⟨rule, .allow⟩

/-- The request is sent to a page, with nothing to come back to. -/
def Decision.send (rule : Rule) (target : String) : Decision := ⟨rule, .redirect ⟨target, none⟩⟩

/-- The page a user who is signed in belongs on. -/
def RedirectTargets.home (targets : RedirectTargets) (onboarded : Bool) : String :=
  if onboarded then targets.dashboardHome else targets.onboarding

/-- The decision for a visitor on a path of a class. -/
def decide (visitor : Visitor) (route : PathClass) (path : String) (targets : RedirectTargets) :
    Decision :=
  if route.isApi then .pass .apiPassthrough
  else match visitor with
    | .anonymous =>
      if route.isPublic then .pass .publicRoute
      else ⟨.signInRequired, .redirect ⟨targets.login, some path⟩⟩
    | .signedIn onboarded =>
      if route.isAuthOnly then .send .signedInOnAuthOnlyRoute (targets.home onboarded)
      else if route.isPublic then .pass .publicRoute
      else match onboarded, route.isOnboarding with
        | false, false => .send .onboardingRequired targets.onboarding
        | true, true => .send .onboardingAlreadyCompleted targets.dashboardHome
        | _, _ => .pass .default

/-- The routes and the redirect targets of one dashboard. -/
structure Authorizer where
  routes : RouteTable
  targets : RedirectTargets
  deriving DecidableEq, Repr

/-- The dashboard's own routes and targets. -/
def Authorizer.reference : Authorizer := ⟨.reference, .reference⟩

/-- The decision on a path as it came in: its canonical form is classified and called back. -/
def Authorizer.authorize (authorizer : Authorizer) (path : String) (visitor : Visitor) : Decision :=
  let canonical := normalize path
  decide visitor (authorizer.routes.classify canonical) canonical authorizer.targets

end Gatehouse.Access
