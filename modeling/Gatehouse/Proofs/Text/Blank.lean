/-
Blanks at the ends of a text. They are all that stripping takes away, and it takes them away whatever
stands between them; it leaves none at either end, so stripping once more changes nothing.
-/
import Gatehouse.Text.Basic
import Mathlib.Data.List.TakeWhile
import Mathlib.Tactic.SplitIfs

namespace Gatehouse.Text

/-- Only blanks. -/
def AreBlank (cs : List Char) : Prop := ∀ c ∈ cs, isBlank c = true

theorem isBlank_eq_false {c : Char} (hlo : 33 ≤ c.toNat) (hhi : c.toNat < 128) : isBlank c = false := by
  rw [isBlank, List.contains_eq_mem, decide_eq_false_iff_not]
  simp only [blankCodePoints, List.mem_cons, List.not_mem_nil, or_false]
  omega

theorem strip_append_left {front : List Char} (h : AreBlank front) (cs : List Char) :
    strip (front ++ cs) = strip cs := by
  rw [strip, List.dropWhile_append_of_pos h, strip]

theorem strip_cons_of_isBlank {c : Char} (h : isBlank c = true) (cs : List Char) : strip (c :: cs) = strip cs := by
  rw [strip, List.dropWhile_cons_of_pos h, strip]

theorem strip_append_right (cs : List Char) {back : List Char} (h : AreBlank back) : strip (cs ++ back) = strip cs := by
  have hback : ∀ c ∈ back.reverse, isBlank c = true := fun c hc => h c (List.mem_reverse.1 hc)
  unfold strip
  rw [List.dropWhile_append]
  split
  · rename_i hempty
    rw [List.isEmpty_iff.1 hempty, List.dropWhile_eq_nil_iff.2 h]
  · rw [List.reverse_append, List.dropWhile_append_of_pos hback]

/-- A text is what is left of it when it is stripped, with blanks on both sides. -/
theorem exists_blanks_around (cs : List Char) :
    ∃ front back, AreBlank front ∧ AreBlank back ∧ cs = front ++ strip cs ++ back := by
  refine ⟨cs.takeWhile isBlank, ((cs.dropWhile isBlank).reverse.takeWhile isBlank).reverse, ?_, ?_, ?_⟩
  · exact fun c hc => List.mem_takeWhile_imp hc
  · exact fun c hc => List.mem_takeWhile_imp (List.mem_reverse.1 hc)
  · rw [strip, List.append_assoc, ← List.reverse_append, List.takeWhile_append_dropWhile, List.reverse_reverse,
      List.takeWhile_append_dropWhile]

theorem strip_eq_nil_iff {cs : List Char} : strip cs = [] ↔ AreBlank cs := by
  constructor
  · intro h
    obtain ⟨front, back, hfront, hback, hcs⟩ := exists_blanks_around cs
    rw [hcs, h, List.append_nil]
    intro c hc
    rcases List.mem_append.1 hc with hc | hc
    · exact hfront c hc
    · exact hback c hc
  · intro h
    unfold strip
    rw [List.dropWhile_eq_nil_iff.2 h]
    rfl

theorem isBlankText_iff {s : String} : isBlankText s = true ↔ AreBlank s.toList := List.all_eq_true

theorem nonBlank?_eq_ite (s : String) : nonBlank? s = if isBlankText s = true then none else some (trim s) := by
  unfold nonBlank?
  simp only [List.isEmpty_iff, strip_eq_nil_iff, ← isBlankText_iff]
  rfl

/-- Neither the first nor the last character is a blank. -/
def HasBareEnds (cs : List Char) : Prop := ∀ c, cs.head? = some c ∨ cs.getLast? = some c → isBlank c = false

theorem isBlank_of_head?_dropWhile {cs : List Char} {c : Char} (h : (cs.dropWhile isBlank).head? = some c) :
    isBlank c = false := by
  have hhead := List.head?_dropWhile_not isBlank cs
  rwa [h] at hhead

theorem hasBareEnds_strip (cs : List Char) : HasBareEnds (strip cs) := by
  unfold strip
  rintro c (hhead | hlast)
  · -- something is left, so its first character is the one that dropping blanks in front came to
    rw [List.head?_reverse] at hhead
    obtain ⟨dropped, hdropped⟩ := List.dropWhile_suffix (l := (cs.dropWhile isBlank).reverse) isBlank
    have hfirst : (cs.dropWhile isBlank).head? = some c := by
      rw [← List.getLast?_reverse, ← hdropped, List.getLast?_append, hhead, Option.some_or]
    exact isBlank_of_head?_dropWhile hfirst
  · rw [List.getLast?_reverse] at hlast
    exact isBlank_of_head?_dropWhile hlast

theorem dropWhile_isBlank_of_head? {cs : List Char} (h : ∀ c, cs.head? = some c → isBlank c = false) :
    cs.dropWhile isBlank = cs := by
  cases cs with
  | nil => rfl
  | cons c cs => rw [List.dropWhile_cons_of_neg (by simp [h c rfl])]

theorem strip_of_hasBareEnds {cs : List Char} (h : HasBareEnds cs) : strip cs = cs := by
  unfold strip
  rw [dropWhile_isBlank_of_head? fun c hc => h c (.inl hc), dropWhile_isBlank_of_head?, List.reverse_reverse]
  intro c hc
  rw [List.head?_reverse] at hc
  exact h c (.inr hc)

theorem strip_of_forall {cs : List Char} (h : ∀ c ∈ cs, isBlank c = false) : strip cs = cs := by
  apply strip_of_hasBareEnds
  rintro c (hhead | hlast)
  · exact h c (List.mem_of_mem_head? hhead)
  · exact h c (List.mem_of_getLast? hlast)

theorem trim_trim (s : String) : trim (trim s) = trim s := by
  unfold trim
  rw [String.toList_ofList, strip_of_hasBareEnds (hasBareEnds_strip _)]

/-! ## Texts with something in them -/

/-- A text that is not empty and has no blank at either end. -/
structure IsTrimmed (s : String) : Prop where
  ne_empty : s ≠ ""
  hasBareEnds : HasBareEnds s.toList

theorem nonBlank?_eq_some_iff {s t : String} : nonBlank? s = some t ↔ isBlankText s = false ∧ trim s = t := by
  rw [nonBlank?_eq_ite]
  split_ifs with h
  · simp [h]
  · simp [h]

theorem isTrimmed_trim {s : String} (h : isBlankText s = false) : IsTrimmed (trim s) := by
  constructor
  · intro hempty
    have hstrip : strip s.toList = [] := String.ofList_eq_empty_iff.1 hempty
    rw [isBlankText_iff.2 (strip_eq_nil_iff.1 hstrip)] at h
    cases h
  · rw [trim, String.toList_ofList]
    exact hasBareEnds_strip _

theorem isTrimmed_of_nonBlank? {s t : String} (h : nonBlank? s = some t) : IsTrimmed t := by
  obtain ⟨hpresent, rfl⟩ := nonBlank?_eq_some_iff.1 h
  exact isTrimmed_trim hpresent

theorem IsTrimmed.nonBlank? {s : String} (h : IsTrimmed s) : nonBlank? s = some s := by
  have hstrip : strip s.toList = s.toList := strip_of_hasBareEnds h.hasBareEnds
  rw [nonBlank?_eq_some_iff]
  constructor
  · rw [Bool.eq_false_iff]
    intro hblank
    rw [strip_eq_nil_iff.2 (isBlankText_iff.1 hblank)] at hstrip
    exact h.ne_empty (String.toList_eq_nil_iff.1 hstrip.symm)
  · rw [trim, hstrip, String.ofList_toList]

end Gatehouse.Text
