/-
Redirects followed. A visitor whose session stays the same has one page to be sent to, whatever the path
is; so following redirects ends on that page or comes back to it without end, and which of the two it is
depends on that page alone. With the dashboard's own rules it always ends.
-/
import Gatehouse.Proofs.Access.Callback

namespace Gatehouse.Access

open Gatehouse.Route

/-! ## Pages -/

/-- The page that a redirect leads to: its location without query and fragment. -/
def Redirect.page (redirect : Redirect) : String := String.ofList (beforeQuery redirect.location.toList)

/-- The page that a visitor is sent to who does not pass. -/
def RedirectTargets.pageFor (targets : RedirectTargets) : Visitor → String
  | .anonymous => targets.login
  | .signedIn onboarded => targets.home onboarded

/-- A page without query and fragment. -/
def IsPlainPage (page : String) : Prop := '?' ∉ page.toList ∧ '#' ∉ page.toList

instance (page : String) : Decidable (IsPlainPage page) := inferInstanceAs (Decidable (_ ∧ _))

/-- All redirects lead to pages without query and fragment. -/
structure RedirectTargets.ArePlain (targets : RedirectTargets) : Prop where
  login : IsPlainPage targets.login
  onboarding : IsPlainPage targets.onboarding
  dashboardHome : IsPlainPage targets.dashboardHome

theorem RedirectTargets.arePlain_reference : RedirectTargets.reference.ArePlain := ⟨by decide, by decide, by decide⟩

theorem RedirectTargets.ArePlain.pageFor {targets : RedirectTargets} (h : targets.ArePlain) :
    (visitor : Visitor) → IsPlainPage (targets.pageFor visitor)
  | .anonymous => h.login
  | .signedIn true => h.dashboardHome
  | .signedIn false => h.onboarding

theorem page_of_isPlainPage {redirect : Redirect} (h : IsPlainPage redirect.target) :
    redirect.page = redirect.target := by
  obtain ⟨target, callback⟩ := redirect
  obtain ⟨hquery, hfragment⟩ := h
  have hbefore : beforeQuery (Redirect.location ⟨target, callback⟩).toList = target.toList := by
    cases callback with
    | none => exact beforeQuery_of_notMem hquery hfragment
    | some path => rw [(parts_location hfragment path).1, beforeQuery_of_notMem hquery hfragment]
  rw [Redirect.page, hbefore, String.ofList_toList]

/-! ## One redirect -/

variable (authorizer : Authorizer) (visitor : Visitor)

theorem target_of_redirect {path : String} {redirect : Redirect}
    (h : (authorizer.authorize path visitor).outcome = .redirect redirect) :
    redirect.target = authorizer.targets.pageFor visitor := by
  unfold Authorizer.authorize at h
  cases visitor with
  | anonymous =>
    rw [decide_anonymous] at h
    split_ifs at h
    all_goals cases h
    rfl
  | signedIn onboarded =>
    rw [decide_signedIn] at h
    split_ifs at h
    all_goals cases h
    all_goals rfl

/-- The page that a visitor is sent to for a path, unless the visitor passes. -/
def Authorizer.next? (path : String) : Option String :=
  match (authorizer.authorize path visitor).outcome with
  | .allow => none
  | .redirect redirect => some redirect.page

theorem next?_eq_ite (h : authorizer.targets.ArePlain) (path : String) :
    authorizer.next? visitor path =
      if (authorizer.authorize path visitor).outcome = .allow then none
      else some (authorizer.targets.pageFor visitor) := by
  unfold Authorizer.next?
  cases houtcome : (authorizer.authorize path visitor).outcome with
  | allow => rw [if_pos rfl]
  | redirect redirect =>
    have htarget := target_of_redirect authorizer visitor houtcome
    have hplain : IsPlainPage redirect.target := htarget ▸ h.pageFor visitor
    rw [if_neg nofun, ← htarget]
    exact congrArg some (page_of_isPlainPage hplain)

/-! ## Redirects in a row -/

/-- The path that is asked for after so many redirects; there is none if the visitor passed before. -/
def Authorizer.pathAfter (path : String) : Nat → Option String
  | 0 => some path
  | n + 1 => (Authorizer.pathAfter path n).bind (authorizer.next? visitor)

/-- Following redirects ends: after some of them the visitor passes. -/
def Authorizer.Ends (path : String) : Prop :=
  ∃ n last, authorizer.pathAfter visitor path n = some last ∧ (authorizer.authorize last visitor).outcome = .allow

section Rows

variable {authorizer visitor} (h : authorizer.targets.ArePlain) {path : String}
  (hpath : (authorizer.authorize path visitor).outcome ≠ .allow)
include h hpath

theorem pathAfter_one : authorizer.pathAfter visitor path 1 = some (authorizer.targets.pageFor visitor) := by
  rw [Authorizer.pathAfter, Authorizer.pathAfter, Option.bind_some, next?_eq_ite authorizer visitor h, if_neg hpath]

/-- A page that does not let its visitor pass is asked for again after every redirect. -/
theorem pathAfter_succ (hpage : (authorizer.authorize (authorizer.targets.pageFor visitor) visitor).outcome ≠ .allow)
    (n : Nat) : authorizer.pathAfter visitor path (n + 1) = some (authorizer.targets.pageFor visitor) := by
  induction n with
  | zero => exact pathAfter_one h hpath
  | succ n ih => rw [Authorizer.pathAfter, ih, Option.bind_some, next?_eq_ite authorizer visitor h, if_neg hpage]

/-- A visitor who is sent away for a path passes in the end if the page for that visitor lets the visitor pass, and
otherwise is sent to that page again and again. -/
theorem ends_iff : authorizer.Ends visitor path ↔
    (authorizer.authorize (authorizer.targets.pageFor visitor) visitor).outcome = .allow := by
  constructor
  · rintro ⟨n, last, hlast, hallow⟩
    by_contra hpage
    cases n with
    | zero =>
      cases hlast
      exact hpath hallow
    | succ n =>
      rw [pathAfter_succ h hpath hpage] at hlast
      cases hlast
      exact hpage hallow
  · intro hallow
    exact ⟨1, _, pathAfter_one h hpath, hallow⟩

end Rows

theorem ends_of_allow {path : String} (h : (authorizer.authorize path visitor).outcome = .allow) :
    authorizer.Ends visitor path := ⟨0, path, rfl, h⟩

theorem exists_redirect_of_ne_allow {outcome : Outcome} (h : outcome ≠ .allow) :
    ∃ redirect, outcome = .redirect redirect := by
  cases outcome with
  | allow => exact absurd rfl h
  | redirect redirect => exact ⟨redirect, rfl⟩

theorem allow_pageFor_reference (visitor : Visitor) :
    (Authorizer.reference.authorize (RedirectTargets.reference.pageFor visitor) visitor).outcome = .allow :=
  match visitor with
  | .anonymous => by decide +kernel
  | .signedIn true => by decide +kernel
  | .signedIn false => by decide +kernel

/-- If all targets `ArePlain`, then with any routes every redirect of a visitor leads to that visitor's `page`:
`login`, `onboarding` or `dashboardHome`. Following redirects from any path (`pathAfter`) comes to `.allow` after at
most one of them, or never `Ends` and is redirected to `page` after each. From a path that is not allowed at once it
`Ends` exactly if `page` is allowed. With `Authorizer.reference` it `Ends` for every visitor and path. -/
theorem redirects_end_or_repeat {targets : RedirectTargets} (h : targets.ArePlain) :
    (∀ (routes : RouteTable) (visitor : Visitor) (path : String),
      let authorizer : Authorizer := ⟨routes, targets⟩
      let page := match visitor with
        | .anonymous => targets.login
        | .signedIn false => targets.onboarding
        | .signedIn true => targets.dashboardHome
      (∀ redirect, (authorizer.authorize path visitor).outcome = .redirect redirect → redirect.target = page) ∧
      ((∃ n ≤ 1, ∃ last, authorizer.pathAfter visitor path n = some last ∧
          (authorizer.authorize last visitor).outcome = .allow) ∨
        ¬ authorizer.Ends visitor path ∧
          ∀ n, ∃ last redirect, authorizer.pathAfter visitor path n = some last ∧
            (authorizer.authorize last visitor).outcome = .redirect redirect ∧ redirect.target = page) ∧
      ((authorizer.authorize path visitor).outcome ≠ .allow →
        (authorizer.Ends visitor path ↔ (authorizer.authorize page visitor).outcome = .allow))) ∧
    ∀ (visitor : Visitor) (path : String), Authorizer.reference.Ends visitor path := by
  constructor
  · intro routes visitor path authorizer page
    have hpage : page = authorizer.targets.pageFor visitor := by
      rcases visitor with _ | (_ | _)
      all_goals rfl
    have htarget : ∀ (last : String) (redirect : Redirect),
        (authorizer.authorize last visitor).outcome = .redirect redirect → redirect.target = page :=
      fun _ _ hredirect => (target_of_redirect authorizer visitor hredirect).trans hpage.symm
    refine ⟨htarget path, ?_, fun hpath => hpage ▸ ends_iff h hpath⟩
    by_cases hpath : (authorizer.authorize path visitor).outcome = .allow
    · exact .inl ⟨0, by omega, path, rfl, hpath⟩
    by_cases hallow : (authorizer.authorize (authorizer.targets.pageFor visitor) visitor).outcome = .allow
    · exact .inl ⟨1, by omega, _, pathAfter_one h hpath, hallow⟩
    -- neither the path nor the page lets the visitor pass, so the page is asked for after every redirect
    refine .inr ⟨fun hends => hallow ((ends_iff h hpath).1 hends), fun n => ?_⟩
    cases n with
    | zero =>
      obtain ⟨redirect, hredirect⟩ := exists_redirect_of_ne_allow hpath
      exact ⟨path, redirect, rfl, hredirect, htarget path redirect hredirect⟩
    | succ n =>
      obtain ⟨redirect, hredirect⟩ := exists_redirect_of_ne_allow hallow
      exact ⟨_, redirect, pathAfter_succ h hpath hallow n, hredirect, htarget _ redirect hredirect⟩
  · intro visitor path
    by_cases hpath : (Authorizer.reference.authorize path visitor).outcome = .allow
    · exact ends_of_allow _ visitor hpath
    · exact (ends_iff RedirectTargets.arePlain_reference hpath).2 (allow_pageFor_reference visitor)

/-- Where the login is missing from the public pages, `.anonymous` is sent to it without end, while `.signedIn false`
still comes to onboarding. -/
theorem redirects_end_or_repeat_private_login :
    let authorizer : Authorizer := ⟨⟨"/api", ["/register"], ["/register"], "/onboarding"⟩, .reference⟩
    ¬ authorizer.Ends .anonymous "/a/../b" ∧ authorizer.Ends (.signedIn false) "/a/../b" := by
  intro authorizer
  obtain ⟨hrows, -⟩ := redirects_end_or_repeat RedirectTargets.arePlain_reference
  obtain ⟨-, -, hanonymous⟩ := hrows authorizer.routes .anonymous "/a/../b"
  obtain ⟨-, -, hpending⟩ := hrows authorizer.routes (.signedIn false) "/a/../b"
  refine ⟨fun hends => ?_, (hpending (by decide +kernel)).2 (by decide +kernel)⟩
  exact absurd ((hanonymous (by decide +kernel)).1 hends) (by decide +kernel)

end Gatehouse.Access
