/-
Who passes to which canonical path, and where everyone else is sent. The rules of the dashboard come
down to one condition for each kind of visitor, and the destination does not depend on the rule.
-/
import Gatehouse.Access.Decision
import Mathlib.Tactic.SplitIfs

namespace Gatehouse.Access

open Gatehouse.Route Gatehouse.Text

/-! ## Callbacks -/

/-- A character that stays as it is in a callback. -/
def staysInCallback (c : Char) : Bool := Percent.isUnreserved c || c == '/'

theorem encodeWith_cons (keep : Char → Bool) (c : Char) (cs : List Char) :
    Percent.encodeWith keep (c :: cs) =
      (if keep c then [c] else (String.utf8EncodeChar c).flatMap Percent.escape) ++ Percent.encodeWith keep cs :=
  List.flatMap_cons

/-- A callback that is escaped segment by segment is escaped character by character, but for the slashes. -/
theorem encodeCallback_eq (cs : List Char) : encodeCallback cs = Percent.encodeWith staysInCallback cs := by
  induction cs with
  | nil => rfl
  | cons c cs ih =>
    -- a slash opens an empty segment before the first, any other character goes into the first
    obtain ⟨s, ss, hs⟩ := List.exists_cons_of_ne_nil (List.splitOn_ne_nil '/' cs)
    rw [encodeCallback, hs] at ih
    rw [encodeCallback, List.splitOn_cons_eq_if_modifyHead, hs, encodeWith_cons, ← ih]
    by_cases hc : c = '/'
    · subst hc
      simp only [beq_self_eq_true, if_true, List.map_cons]
      rw [List.intercalate_cons_cons]
      rfl
    · rw [if_neg (by simpa using hc)]
      have hkeep : staysInCallback c = Percent.isUnreserved c := by simp [staysInCallback, hc]
      rw [List.modifyHead_cons, List.map_cons, Percent.encode, encodeWith_cons, hkeep, List.map_cons]
      cases ss <;> simp [List.intercalate, Percent.encode]

/-! ## The rules by visitor -/

theorem decide_anonymous (route : PathClass) (path : String) (targets : RedirectTargets) :
    decide .anonymous route path targets =
      if route.isApi then .pass .apiPassthrough
      else if route.isPublic then .pass .publicRoute
      else ⟨.signInRequired, .redirect ⟨targets.login, some path⟩⟩ := rfl

/-- The rule that keeps a user on the right side of onboarding. -/
def onboardingRule : Bool → Rule
  | true => .onboardingAlreadyCompleted
  | false => .onboardingRequired

/-- Every redirect that `decide` has for a signed-in visitor leads to `RedirectTargets.home`. -/
theorem decide_signedIn (onboarded : Bool) (route : PathClass) (path : String) (targets : RedirectTargets) :
    decide (.signedIn onboarded) route path targets =
      if route.isApi then .pass .apiPassthrough
      else if route.isAuthOnly then .send .signedInOnAuthOnlyRoute (targets.home onboarded)
      else if route.isPublic then .pass .publicRoute
      else if onboarded = route.isOnboarding then .send (onboardingRule onboarded) (targets.home onboarded)
      else .pass .default := by
  unfold decide
  cases onboarded <;> cases route.isOnboarding <;> rfl

/-! ## The dashboard's rules -/

/-- The visitor passes to a canonical path. -/
def Admits (path : String) : Visitor → Prop
  | .anonymous => startsWith path "/api" = true ∨ startsWithAny path signedOutPages = true
  | .signedIn onboarded =>
    startsWith path "/api" = true ∨
      startsWithAny path signedOutPages = false ∧ onboarded ≠ startsWith path "/onboarding"

instance (path : String) : (visitor : Visitor) → Decidable (Admits path visitor)
  | .anonymous => inferInstanceAs (Decidable (_ ∨ _))
  | .signedIn _ => inferInstanceAs (Decidable (_ ∨ _))

/-- Where a visitor is sent who does not pass to a canonical path. -/
def destination (path : String) : Visitor → String
  | .anonymous =>
    "/login?callbackUrl=" ++ String.ofList (Percent.encodeWith staysInCallback path.toList)
  | .signedIn true => "/dashboard"
  | .signedIn false => "/onboarding"

/-- The redirect of a visitor who does not pass. -/
def redirectOf (path : String) : Visitor → Redirect
  | .anonymous => ⟨"/login", some path⟩
  | .signedIn onboarded => ⟨RedirectTargets.reference.home onboarded, none⟩

/-- The outcome of `decide` where the public pages are those for signed-out users. -/
theorem decide_outcome (visitor : Visitor) (isPublic isOnboarding isApi : Bool) (path : String) :
    (decide visitor ⟨isPublic, isPublic, isOnboarding, isApi⟩ path .reference).outcome =
      match visitor with
      | .anonymous => if isApi = true ∨ isPublic = true then .allow else .redirect (redirectOf path visitor)
      | .signedIn onboarded =>
        if isApi = true ∨ isPublic = false ∧ onboarded ≠ isOnboarding then .allow
        else .redirect (redirectOf path visitor) := by
  cases visitor with
  | anonymous => cases isApi <;> cases isPublic <;> rfl
  | signedIn onboarded => cases isApi <;> cases isPublic <;> cases onboarded <;> cases isOnboarding <;> rfl

theorem authorize_outcome (path : String) (visitor : Visitor) :
    (Authorizer.reference.authorize path visitor).outcome =
      if Admits (normalize path) visitor then .allow else .redirect (redirectOf (normalize path) visitor) := by
  have hdecide := decide_outcome visitor (startsWithAny (normalize path) signedOutPages)
    (startsWith (normalize path) "/onboarding") (startsWith (normalize path) "/api") (normalize path)
  cases visitor with
  | anonymous => exact hdecide
  | signedIn onboarded => exact hdecide

theorem login_callback : "/login" ++ "?" ++ callbackParameter ++ "=" = "/login?callbackUrl=" := by decide +kernel

theorem location_callback {target : String} (h : target.toList.contains '?' = false) (path : String) :
    Redirect.location ⟨target, some path⟩ =
      target ++ "?" ++ callbackParameter ++ "=" ++ String.ofList (encodeCallback path.toList) := by
  simp only [Redirect.location, h, Bool.false_eq_true, if_false]

theorem destination_anonymous (path : String) : destination path .anonymous =
    "/login?callbackUrl=" ++ String.ofList (Percent.encodeWith staysInCallback path.toList) := rfl

theorem location_redirectOf (path : String) (visitor : Visitor) :
    (redirectOf path visitor).location = destination path visitor := by
  match visitor with
  | .signedIn true => rfl
  | .signedIn false => rfl
  | .anonymous =>
    have hmark : "/login".toList.contains '?' = false := by decide +kernel
    rw [redirectOf, location_callback hmark, login_callback, encodeCallback_eq, destination_anonymous]

end Gatehouse.Access
