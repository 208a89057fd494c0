/-
Canonical paths. A path is resolved to proper segments only, and proper segments, each after a slash,
are resolved to themselves; so the canonical form of a path is its own canonical form.
-/
import Gatehouse.Route.Path

namespace Gatehouse.Route

/-! ## Proper segments -/

/-- A character that parts two segments. -/
def isSeparator (c : Char) : Bool := c == '/' || c == '\\'

/-- A segment that a path keeps: it is not empty, has no separator in it, and stands neither for "here" nor for "one up". -/
structure IsProper (segment : List Char) : Prop where
  ne_nil : segment ≠ []
  noSeparator : ∀ c ∈ segment, isSeparator c = false
  notCurrent : isCurrent segment = false
  notParent : isParent segment = false

theorem segments_eq (path : List Char) : segments path = path.splitOnP isSeparator := rfl

theorem isSeparator_of_mem_segments {path segment : List Char} (h : segment ∈ segments path) :
    ∀ c ∈ segment, isSeparator c = false := by
  rw [segments_eq] at h
  induction path generalizing segment with
  | nil =>
    cases List.mem_singleton.1 h
    exact nofun
  | cons d path ih =>
    rw [List.splitOnP_cons_eq_if_modifyHead] at h
    split at h
    · rcases List.mem_cons.1 h with rfl | hrest
      · exact nofun
      · exact ih hrest
    · -- any other character goes into the first of the segments that follow
      rename_i hd
      obtain ⟨first, rest, hsplit⟩ := List.exists_cons_of_ne_nil (List.splitOnP_ne_nil isSeparator path)
      rw [hsplit] at h ih
      rw [List.modifyHead_cons] at h
      rcases List.mem_cons.1 h with rfl | hrest
      · exact List.forall_mem_cons.2 ⟨Bool.eq_false_iff.2 hd, ih (List.mem_cons_self ..)⟩
      · exact ih (List.mem_cons_of_mem _ hrest)

/-! ## Walking -/

theorem walk_of_isProper (trail : List (List Char)) {segment : List Char} (h : IsProper segment) :
    walk trail segment = segment :: trail := by
  have hempty : segment.isEmpty = false := List.isEmpty_eq_false_iff.2 h.ne_nil
  simp only [walk, hempty, h.notCurrent, h.notParent, Bool.or_self, Bool.false_eq_true, if_false]

theorem isProper_of_mem_walk {trail : List (List Char)} {segment : List Char} (htrail : ∀ s ∈ trail, IsProper s)
    (hsegment : ∀ c ∈ segment, isSeparator c = false) : ∀ s ∈ walk trail segment, IsProper s := by
  unfold walk
  intro s hs
  split at hs
  · exact htrail s hs
  · rename_i hstays
    rw [Bool.not_eq_true, Bool.or_eq_false_iff] at hstays
    split at hs
    · exact htrail s (List.mem_of_mem_tail hs)
    · rename_i hclimbs
      rcases List.mem_cons.1 hs with rfl | hs
      · exact ⟨List.isEmpty_eq_false_iff.1 hstays.1, hsegment, hstays.2, Bool.eq_false_iff.2 hclimbs⟩
      · exact htrail s hs

theorem isProper_of_mem_foldl {trail : List (List Char)} {steps : List (List Char)} (htrail : ∀ s ∈ trail, IsProper s)
    (hsteps : ∀ s ∈ steps, ∀ c ∈ s, isSeparator c = false) : ∀ s ∈ steps.foldl walk trail, IsProper s := by
  induction steps generalizing trail with
  | nil => exact htrail
  | cons step steps ih =>
    rw [List.forall_mem_cons] at hsteps
    exact ih (isProper_of_mem_walk htrail hsteps.1) hsteps.2

theorem foldl_walk_of_isProper (trail : List (List Char)) {steps : List (List Char)} (h : ∀ s ∈ steps, IsProper s) :
    steps.foldl walk trail = steps.reverse ++ trail := by
  induction steps generalizing trail with
  | nil => rfl
  | cons step steps ih =>
    rw [List.forall_mem_cons] at h
    rw [List.foldl_cons, walk_of_isProper trail h.1, ih _ h.2, List.reverse_cons, List.append_assoc]
    rfl

/-! ## Resolving -/

theorem isProper_of_mem_resolve {path segment : List Char} (h : segment ∈ resolve path) : IsProper segment := by
  have hsegments := @isProper_of_mem_foldl [] (segments path) nofun fun s hs => isSeparator_of_mem_segments hs
  exact hsegments segment (List.mem_reverse.1 h)

/-- Segments without a separator, each after a slash, are cut into themselves after an empty one. -/
theorem segments_flatMap {ss : List (List Char)} (h : ∀ s ∈ ss, ∀ c ∈ s, isSeparator c = false) :
    segments (ss.flatMap ('/' :: ·)) = [] :: ss := by
  induction ss with
  | nil => rfl
  | cons s ss ih =>
    rw [List.forall_mem_cons] at h
    have hrest := ih h.2
    rw [segments_eq] at hrest ⊢
    rw [List.flatMap_cons, List.cons_append, List.splitOnP_cons_eq_if_modifyHead, if_pos (by rfl)]
    cases ss with
    | nil => rw [List.flatMap_nil, List.append_nil, List.splitOnP_eq_singleton h.1]
    | cons t ts =>
      rw [List.flatMap_cons, List.cons_append] at hrest ⊢
      rw [List.splitOnP_cons_eq_if_modifyHead, if_pos (by rfl)] at hrest
      rw [List.splitOnP_append_cons_of_forall_mem h.1 _ (by rfl), (List.cons.inj hrest).2]

theorem resolve_render {ss : List (List Char)} (h : ∀ s ∈ ss, IsProper s) : resolve (render ss) = ss := by
  cases ss with
  | nil => rfl
  | cons s ss =>
    have hsegments : segments (render (s :: ss)) = [] :: s :: ss :=
      segments_flatMap fun t ht => (h t ht).noSeparator
    -- the empty segment before the first slash is passed over
    unfold resolve
    rw [hsegments, List.foldl_cons, show walk [] [] = [] from rfl, foldl_walk_of_isProper [] h, List.append_nil,
      List.reverse_reverse]

theorem normalize_normalize (path : String) : normalize (normalize path) = normalize path := by
  have hresolve : resolve (render (resolve path.toList)) = resolve path.toList :=
    resolve_render fun _ hs => isProper_of_mem_resolve hs
  unfold normalize
  rw [String.toList_ofList, hresolve]

end Gatehouse.Route
