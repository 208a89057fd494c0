/-
What each kind of visitor reaches, whatever the table of routes is. Where every public page is a page for
those who are signed out, a user with onboarding ahead reaches nothing but that, an onboarded one neither
that nor the pages for others, and a visitor without a session the public pages only; the interface for
programs is open to all of them.
-/
import Gatehouse.Proofs.Access.Decision

namespace Gatehouse.Access

open Gatehouse.Route

/-! ## Tables -/

/-- The public pages of a table are pages for those who are signed out: the beginning of each begins like one of
theirs. -/
def PublicPagesSignedOut (table : RouteTable) : Prop :=
  ∀ page ∈ table.publicPages, ∃ start ∈ table.authOnlyPages, startsWith page start = true

instance (table : RouteTable) : Decidable (PublicPagesSignedOut table) :=
  inferInstanceAs (Decidable (∀ page ∈ table.publicPages, ∃ start ∈ table.authOnlyPages, startsWith page start = true))

theorem startsWith_trans {path page start : String} (hpath : startsWith path page = true)
    (hpage : startsWith page start = true) : startsWith path start = true := by
  unfold startsWith at hpath hpage ⊢
  rw [List.isPrefixOf_iff_prefix] at hpath hpage ⊢
  exact hpage.trans hpath

theorem isAuthOnly_of_isPublic {table : RouteTable} (h : PublicPagesSignedOut table) {path : String}
    (hpublic : (table.classify path).isPublic = true) : (table.classify path).isAuthOnly = true := by
  obtain ⟨page, hpage, hpath⟩ := List.any_eq_true.1 hpublic
  obtain ⟨start, hstart, hbegins⟩ := h page hpage
  exact List.any_eq_true.2 ⟨start, hstart, startsWith_trans hpath hbegins⟩

/-! ## Outcomes -/

variable (route : PathClass) (path : String) (targets : RedirectTargets)

theorem outcome_decide_anonymous :
    (decide .anonymous route path targets).outcome = .allow ↔ route.isApi = true ∨ route.isPublic = true := by
  rw [decide_anonymous]
  split_ifs with hapi hpublic
  · exact iff_of_true rfl (.inl hapi)
  · exact iff_of_true rfl (.inr hpublic)
  · exact iff_of_false nofun (not_or.2 ⟨hapi, hpublic⟩)

/-- For whoever is signed in, being a page for others comes before being a public one, and that before onboarding. -/
theorem outcome_decide_signedIn (onboarded : Bool) :
    (decide (.signedIn onboarded) route path targets).outcome = .allow ↔
      route.isApi = true ∨
        route.isAuthOnly = false ∧ (route.isPublic = true ∨ onboarded ≠ route.isOnboarding) := by
  rw [decide_signedIn]
  split_ifs with hapi hauth hpublic hpending
  · exact iff_of_true rfl (.inl hapi)
  · refine iff_of_false nofun ?_
    rintro (h | ⟨h, -⟩)
    · exact hapi h
    · rw [hauth] at h
      cases h
  · exact iff_of_true rfl (.inr ⟨Bool.eq_false_iff.2 hauth, .inl hpublic⟩)
  · refine iff_of_false nofun ?_
    rintro (h | ⟨-, h | h⟩)
    · exact hapi h
    · exact hpublic h
    · exact h hpending
  · exact iff_of_true rfl (.inr ⟨Bool.eq_false_iff.2 hauth, .inr hpending⟩)

/-! ## The three kinds of visitors -/

/-- For a table with `PublicPagesSignedOut`, any targets and any path, of which only `normalize path` counts:
`.signedIn false` is allowed exactly under `api`, and under `onboarding` where no `authOnlyPages` begin; `.anonymous`
exactly under `api` and the `publicPages`; `.signedIn true` exactly under `api`, and where neither `onboarding` nor
`authOnlyPages` begin. -/
theorem visitors_kept_apart {table : RouteTable} (h : PublicPagesSignedOut table) :
    let allows := fun visitor => ((Authorizer.mk table targets).authorize path visitor).outcome = .allow
    let isApi := startsWith (normalize path) table.api = true
    let isPublic := startsWithAny (normalize path) table.publicPages = true
    let isAuthOnly := startsWithAny (normalize path) table.authOnlyPages = true
    let isOnboarding := startsWith (normalize path) table.onboarding = true
    (allows (.signedIn false) ↔ isApi ∨ isOnboarding ∧ ¬ isAuthOnly) ∧
    (allows .anonymous ↔ isApi ∨ isPublic) ∧
    (allows (.signedIn true) ↔ isApi ∨ ¬ (isOnboarding ∨ isAuthOnly)) := by
  intro allows isApi isPublic isAuthOnly isOnboarding
  have hsignedIn : ∀ onboarded : Bool, allows (.signedIn onboarded) ↔
      isApi ∨ ¬ isAuthOnly ∧ onboarded ≠ startsWith (normalize path) table.onboarding := by
    intro onboarded
    refine (outcome_decide_signedIn (table.classify (normalize path)) (normalize path) targets onboarded).trans ?_
    refine or_congr Iff.rfl ⟨?_, fun ⟨hauth, hpending⟩ => ⟨Bool.eq_false_iff.2 hauth, .inr hpending⟩⟩
    rintro ⟨hauth, hpublic | hpending⟩
    · -- a public page is one for signed-out users, so it was refused before
      rw [isAuthOnly_of_isPublic h hpublic] at hauth
      cases hauth
    · exact ⟨Bool.eq_false_iff.1 hauth, hpending⟩
  refine ⟨?_, outcome_decide_anonymous _ _ _, ?_⟩
  · rw [hsignedIn, and_comm, ne_comm, Bool.ne_false_iff]
  · rw [hsignedIn, not_or, and_comm, ne_comm, Ne]

/-- An invitation is public, and lies under registration as onboarding does; only a visitor without a session reaches
it, and nobody with one reaches onboarding there, since that is for those who are signed out. -/
theorem visitors_kept_apart_invitation :
    let table : RouteTable := ⟨"/api", ["/login", "/register/invite"], ["/login", "/register"], "/register/welcome"⟩
    PublicPagesSignedOut table ∧
    ((Authorizer.mk table .reference).authorize "/register/./invite//7" .anonymous).outcome = .allow ∧
    ((Authorizer.mk table .reference).authorize "/register/./invite//7" (.signedIn false)).outcome ≠ .allow ∧
    ((Authorizer.mk table .reference).authorize "/register/welcome" (.signedIn true)).outcome ≠ .allow := by
  intro table
  have hpages : PublicPagesSignedOut table := by decide +kernel
  obtain ⟨hpending, hanonymous, -⟩ := visitors_kept_apart "/register/./invite//7" .reference hpages
  obtain ⟨-, -, honboarded⟩ := visitors_kept_apart "/register/welcome" .reference hpages
  refine ⟨hpages, hanonymous.2 (by decide +kernel), fun hallow => ?_, fun hallow => ?_⟩
  · exact absurd (hpending.1 hallow) (by decide +kernel)
  · exact absurd (honboarded.1 hallow) (by decide +kernel)

-- A public page of its own lets a user with onboarding ahead through.
example : ((Authorizer.mk ⟨"/api", ["/login", "/pricing"], ["/login"], "/welcome"⟩ .reference).authorize "/pricing"
    (.signedIn false)).outcome = .allow := by decide +kernel

end Gatehouse.Access
