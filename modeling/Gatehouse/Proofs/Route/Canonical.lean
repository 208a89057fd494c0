/-
What canonical paths are, said without the walk that makes them: the root, or segments after slashes of
which none is empty, has a separator in it or spells "here" or "one up". Exactly these are fixed points
of the canonical form. A part in front of a slash may be replaced by its canonical form, and requests for
paths of one canonical form are decided alike.
-/
import Gatehouse.Proofs.Access.Callback
import Gatehouse.Proofs.Text.LetterCase

namespace Gatehouse.Route

open Gatehouse.Text

/-! ## Spellings of dots -/

/-- The spellings of a dot: plain, or escaped with a small or a capital digit. -/
def dotSpellings : List (List Char) := [".".toList, "%2e".toList, "%2E".toList]

/-- The spellings of two dots, each of them in a spelling of its own. -/
def dotDotSpellings : List (List Char) := dotSpellings.flatMap fun s => dotSpellings.map (s ++ ·)

theorem eq_or_eq_of_toLower_eq {c : Char} (h : c.toLower = 'e') : c = 'e' ∨ c = 'E' := by
  rcases toLower_eq h with h | ⟨-, -, h⟩
  · exact .inl h
  · refine .inr (Char.toNat_inj.1 ?_)
    have : 'e'.toNat = 'E'.toNat + 32 := rfl
    omega

/-- What reads as a dot or its escape in small letters begins with a spelling of a dot. -/
theorem exists_spelling {s rest : List Char}
    (h : s.map Char.toLower = '.' :: rest ∨ s.map Char.toLower = '%' :: '2' :: 'e' :: rest) :
    ∃ d ∈ dotSpellings, ∃ t, s = d ++ t ∧ t.map Char.toLower = rest := by
  rcases h with h | h
  · obtain ⟨c, t, rfl, hc, ht⟩ := List.map_eq_cons_iff.1 h
    rw [eq_of_toLower_eq (by decide) hc]
    exact ⟨".".toList, by decide, t, rfl, ht⟩
  · obtain ⟨c, u, rfl, hc, hu⟩ := List.map_eq_cons_iff.1 h
    obtain ⟨d, v, rfl, hd, hv⟩ := List.map_eq_cons_iff.1 hu
    obtain ⟨e, t, rfl, he, ht⟩ := List.map_eq_cons_iff.1 hv
    rw [eq_of_toLower_eq (by decide) hc, eq_of_toLower_eq (by decide) hd]
    rcases eq_or_eq_of_toLower_eq he with rfl | rfl
    · exact ⟨"%2e".toList, by decide, t, rfl, ht⟩
    · exact ⟨"%2E".toList, by decide, t, rfl, ht⟩

theorem isCurrent_iff {s : List Char} : isCurrent s = true ↔ s ∈ dotSpellings := by
  constructor
  · intro h
    simp only [isCurrent, decide_eq_true_eq, List.mem_cons, List.not_mem_nil, or_false] at h
    obtain ⟨d, hd, t, rfl, ht⟩ := exists_spelling h
    rw [List.map_eq_nil_iff.1 ht, List.append_nil]
    exact hd
  · revert s
    decide

theorem isParent_iff {s : List Char} : isParent s = true ↔ s ∈ dotDotSpellings := by
  constructor
  · intro h
    have hfirst : ∃ rest ∈ [".".toList, "%2e".toList],
        s.map Char.toLower = '.' :: rest ∨ s.map Char.toLower = '%' :: '2' :: 'e' :: rest := by
      simp only [isParent, decide_eq_true_eq, List.mem_cons, List.not_mem_nil, or_false] at h
      rcases h with h | h | h | h
      · exact ⟨".".toList, by decide, .inl h⟩
      · exact ⟨"%2e".toList, by decide, .inl h⟩
      · exact ⟨".".toList, by decide, .inr h⟩
      · exact ⟨"%2e".toList, by decide, .inr h⟩
    obtain ⟨rest, hrest, hfirst⟩ := hfirst
    obtain ⟨d, hd, t, rfl, ht⟩ := exists_spelling hfirst
    have hsecond : isCurrent t = true := by
      rw [isCurrent, ht]
      exact decide_eq_true hrest
    exact List.mem_flatMap.2 ⟨d, hd, List.mem_map.2 ⟨t, isCurrent_iff.1 hsecond, rfl⟩⟩
  · revert s
    decide

/-! ## Canonical paths -/

/-- A segment of a canonical path: not empty, without a separator, and no spelling of one dot or two. -/
structure IsCanonicalSegment (s : List Char) : Prop where
  ne_nil : s ≠ []
  noSlash : '/' ∉ s
  noBackslash : '\\' ∉ s
  notDot : s ∉ dotSpellings
  notDotDot : s ∉ dotDotSpellings

/-- A canonical path: the root, or one segment or more, each after a slash. -/
def IsCanonical (path : String) : Prop :=
  path = "/" ∨ ∃ ss : List (List Char), ss ≠ [] ∧ (∀ s ∈ ss, IsCanonicalSegment s) ∧
    path.toList = ss.flatMap ('/' :: ·)

theorem isProper_iff {s : List Char} : IsProper s ↔ IsCanonicalSegment s := by
  constructor
  · rintro ⟨hne, hseparator, hcurrent, hparent⟩
    refine ⟨hne, fun h => ?_, fun h => ?_, fun h => ?_, fun h => ?_⟩
    · cases hseparator _ h
    · cases hseparator _ h
    · rw [isCurrent_iff.2 h] at hcurrent
      cases hcurrent
    · rw [isParent_iff.2 h] at hparent
      cases hparent
  · rintro ⟨hne, hslash, hbackslash, hdot, hdotDot⟩
    refine ⟨hne, fun c hc => ?_, Bool.eq_false_iff.2 (mt isCurrent_iff.1 hdot),
      Bool.eq_false_iff.2 (mt isParent_iff.1 hdotDot)⟩
    rw [isSeparator, Bool.or_eq_false_iff, beq_eq_false_iff_ne, beq_eq_false_iff_ne]
    constructor
    · rintro rfl
      exact hslash hc
    · rintro rfl
      exact hbackslash hc

theorem isCanonical_iff {path : String} :
    IsCanonical path ↔ ∃ ss : List (List Char), (∀ s ∈ ss, IsProper s) ∧ path = String.ofList (render ss) := by
  constructor
  · rintro (rfl | ⟨ss, hne, hss, hpath⟩)
    · exact ⟨[], nofun, rfl⟩
    · refine ⟨ss, fun s hs => isProper_iff.2 (hss s hs), ?_⟩
      obtain ⟨s, rest, rfl⟩ := List.exists_cons_of_ne_nil hne
      rw [render, ← hpath, String.ofList_toList]
  · rintro ⟨ss, hss, rfl⟩
    cases ss with
    | nil => exact .inl rfl
    | cons s rest =>
      exact .inr ⟨s :: rest, List.cons_ne_nil _ _, fun t ht => isProper_iff.1 (hss t ht), String.toList_ofList⟩

theorem isCanonical_normalize (path : String) : IsCanonical (normalize path) :=
  isCanonical_iff.2 ⟨resolve path.toList, fun _ => isProper_of_mem_resolve, rfl⟩

theorem normalize_eq_self_iff {path : String} : normalize path = path ↔ IsCanonical path := by
  constructor
  · intro h
    rw [← h]
    exact isCanonical_normalize path
  · intro h
    obtain ⟨ss, hss, rfl⟩ := isCanonical_iff.1 h
    rw [normalize, String.toList_ofList, resolve_render hss]

theorem IsCanonical.exists_cons {path : String} (h : IsCanonical path) :
    ∃ rest, path.toList = '/' :: rest ∧ rest.head? ≠ some '/' ∧ rest.head? ≠ some '\\' := by
  rcases h with rfl | ⟨ss, hne, hss, hpath⟩
  · exact ⟨[], rfl, nofun, nofun⟩
  · obtain ⟨s, rest, rfl⟩ := List.exists_cons_of_ne_nil hne
    obtain ⟨hsne, hslash, hbackslash, -, -⟩ := hss s (List.mem_cons_self ..)
    obtain ⟨c, cs, rfl⟩ := List.exists_cons_of_ne_nil hsne
    refine ⟨c :: cs ++ rest.flatMap ('/' :: ·), hpath, ?_, ?_⟩
    · rintro h
      cases h
      exact hslash (List.mem_cons_self ..)
    · rintro h
      cases h
      exact hbackslash (List.mem_cons_self ..)

/-! ## Parts of a path -/

theorem segments_append_slash (front rest : List Char) :
    segments (front ++ '/' :: rest) = segments front ++ segments rest := by
  rw [segments_eq, segments_eq, segments_eq]
  exact List.splitOnP_append_cons front rest rfl

/-- Of what stands in front of a slash, a walk needs the segments that are left alone. -/
theorem foldl_walk_segments (path : List Char) :
    (segments (render (resolve path))).foldl walk [] = (segments path).foldl walk [] := by
  have hresolve : resolve (render (resolve path)) = resolve path := resolve_render fun _ => isProper_of_mem_resolve
  unfold resolve at hresolve
  exact List.reverse_inj.1 hresolve

theorem normalize_append_slash (a b : String) :
    normalize (normalize a ++ "/" ++ b) = normalize (a ++ "/" ++ b) := by
  have happend : ∀ front : String, (front ++ "/" ++ b).toList = front.toList ++ '/' :: b.toList := by
    intro front
    rw [String.toList_append, String.toList_append, List.append_assoc]
    rfl
  have hresolve : resolve (normalize a ++ "/" ++ b).toList = resolve (a ++ "/" ++ b).toList := by
    rw [happend, happend, resolve, resolve, segments_append_slash, segments_append_slash, List.foldl_append,
      List.foldl_append, normalize, String.toList_ofList, foldl_walk_segments]
  rw [normalize, hresolve, ← normalize]

end Gatehouse.Route

namespace Gatehouse.Access

open Gatehouse.Route

/-! ## Decisions -/

theorem eq_normalize_of_callback {authorizer : Authorizer} {path target callback : String} {visitor : Visitor}
    (h : (authorizer.authorize path visitor).outcome = .redirect ⟨target, some callback⟩) :
    callback = normalize path := by
  unfold Authorizer.authorize at h
  cases visitor with
  | anonymous =>
    rw [decide_anonymous] at h
    split_ifs at h
    · cases h
    · cases h
    · cases h
      rfl
  | signedIn onboarded =>
    -- whoever is signed in is sent away for good
    rw [decide_signedIn] at h
    split_ifs at h <;> cases h

/-- `normalize path` always `IsCanonical`, and begins with one slash and no second separator behind it. The paths that
`IsCanonical` are the fixed points, so `normalize` is idempotent, and what stands in front of a slash may be
`normalize`d first. Paths with one `normalize` have one decision under every authorizer for every visitor, and every
callback is `normalize` of the path. -/
theorem canonical_form :
    (∀ path, IsCanonical (normalize path) ∧
      ∃ rest, (normalize path).toList = '/' :: rest ∧ rest.head? ≠ some '/' ∧ rest.head? ≠ some '\\') ∧
    (∀ path, normalize path = path ↔ IsCanonical path) ∧
    (∀ path, normalize (normalize path) = normalize path) ∧
    (∀ a b, normalize (a ++ "/" ++ b) = normalize (normalize a ++ "/" ++ b)) ∧
    ∀ (authorizer : Authorizer) (visitor : Visitor) (p q : String), normalize p = normalize q →
      authorizer.authorize p visitor = authorizer.authorize q visitor ∧
        ∀ target callback, (authorizer.authorize p visitor).outcome = .redirect ⟨target, some callback⟩ →
          callback = normalize q := by
  refine ⟨fun path => ⟨isCanonical_normalize path, (isCanonical_normalize path).exists_cons⟩,
    fun _ => normalize_eq_self_iff, normalize_normalize, fun a b => (normalize_append_slash a b).symm, ?_⟩
  intro authorizer visitor p q h
  constructor
  · rw [← authorize_normalize, h, authorize_normalize]
  · intro target callback hcallback
    rw [eq_normalize_of_callback hcallback, h]

/-- Two spellings of `/reports` are one path, and `.anonymous` is called back to it by its one canonical form. -/
theorem canonical_form_reports :
    normalize "/x/%2E./reports\\.//2024/" = normalize "reports/2024" ∧
    IsCanonical "/reports/2024" ∧ "/reports/2024" = normalize "reports/2024" ∧
    Authorizer.reference.authorize "/x/%2E./reports\\.//2024/" .anonymous =
      Authorizer.reference.authorize "reports/2024" .anonymous ∧
    (Authorizer.reference.authorize "/x/%2E./reports\\.//2024/" .anonymous).outcome =
      .redirect ⟨"/login", some "/reports/2024"⟩ := by
  have hform : normalize "/x/%2E./reports\\.//2024/" = normalize "reports/2024" := by decide +kernel
  have houtcome : (Authorizer.reference.authorize "/x/%2E./reports\\.//2024/" .anonymous).outcome =
      .redirect ⟨"/login", some "/reports/2024"⟩ := by decide +kernel
  obtain ⟨-, hfixed, -, -, hdecided⟩ := canonical_form
  obtain ⟨halike, hcallback⟩ := hdecided Authorizer.reference .anonymous _ _ hform
  exact ⟨hform, (hfixed _).1 (by decide +kernel), hcallback _ _ houtcome, halike, houtcome⟩

end Gatehouse.Access
