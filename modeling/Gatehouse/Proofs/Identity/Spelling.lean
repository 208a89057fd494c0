/-
The spellings of an identifier: its 32 digits in either case, alone or in five groups with hyphens between them,
the groups also in braces or after the mark of a name, and any of these with blanks around it. Exactly these
texts are read as the identifier, so what is read of a text depends on the identifier that it spells and on
nothing else.
-/
import Gatehouse.Proofs.Identity.Uuid
import Gatehouse.Proofs.Text.Blank
import Gatehouse.Proofs.Text.LetterCase
import Mathlib.Data.List.Induction

namespace Gatehouse.Identity

open Gatehouse.Text

/-- The digits of the identifier, each in either case. -/
def Uuid.HasDigits (u : Uuid) (digits : List Char) : Prop := digits.map Char.toLower = hexDigits 32 u.value.toNat

instance (u : Uuid) (digits : List Char) : Decidable (u.HasDigits digits) :=
  inferInstanceAs (Decidable (_ = _))

/-- A spelling of the identifier. -/
inductive Uuid.IsSpelling (u : Uuid) : List Char → Prop
  | bare {digits : List Char} (h : u.HasDigits digits) : IsSpelling u digits
  | hyphenated {digits : List Char} (h : u.HasDigits digits) : IsSpelling u (hyphenate digits)
  | braced {digits : List Char} (h : u.HasDigits digits) : IsSpelling u ('{' :: hyphenate digits ++ ['}'])
  | named {mark digits : List Char} (hmark : mark.map Char.toLower = urnMark) (h : u.HasDigits digits) :
    IsSpelling u (mark ++ hyphenate digits)
  | padded {front cs back : List Char} (hfront : AreBlank front) (hback : AreBlank back) (h : IsSpelling u cs) :
    IsSpelling u (front ++ cs ++ back)

/-! ## Digits -/

theorem map_toLower_of_number? {digits : List Char} {n : Nat} (h : Hex.number? digits = some n) :
    n < Nat.pow 16 digits.length ∧ digits.map Char.toLower = hexDigits digits.length n := by
  induction digits using List.reverseRecOn generalizing n with
  | nil =>
    cases h
    exact ⟨Nat.one_pos, rfl⟩
  | append_singleton digits c ih =>
    rw [number?_append] at h
    obtain ⟨m, hm, h⟩ := Option.bind_eq_some_iff.1 h
    obtain ⟨d, hd, h⟩ := Option.bind_eq_some_iff.1 h
    cases h
    obtain ⟨hlt, hdigits⟩ := ih hm
    obtain ⟨hd16, hlower⟩ := Hex.toLower_of_value? hd
    have hdiv : (16 * m + d) / 16 = m := by omega
    have hmod : (16 * m + d) % 16 = d := by omega
    have hpow : Nat.pow 16 (digits.length + 1) = Nat.pow 16 digits.length * 16 := rfl
    rw [List.length_append, List.length_singleton, List.map_append, hexDigits, hdiv, hmod, hdigits, hpow]
    exact ⟨by omega, congrArg (_ ++ [·]) hlower⟩

theorem toNat_of_mem_digits {digits : List Char} {width n : Nat} (h : digits.map Char.toLower = hexDigits width n)
    {c : Char} (hc : c ∈ digits) : 48 ≤ c.toNat ∧ c.toNat ≤ 102 := by
  have hlower : c.toLower ∈ hexDigits width n := h ▸ List.mem_map_of_mem hc
  obtain ⟨d, hd, hlower⟩ := exists_lower_of_mem_hexDigits hlower
  apply Hex.toNat_of_value?
  rw [← Hex.value?_toLower, hlower, Hex.value?_lower d hd]

section Digits

variable {u : Uuid} {digits : List Char}

theorem Uuid.HasDigits.length_eq (h : u.HasDigits digits) : digits.length = 32 := by
  rw [← List.length_map Char.toLower, h, length_hexDigits]

theorem Uuid.HasDigits.number? (h : u.HasDigits digits) : Hex.number? digits = some u.value.toNat := by
  have hval : u.value.toNat % Nat.pow 16 32 = u.value.toNat := Nat.mod_eq_of_lt u.value.isLt
  rw [← Hex.number?_map_toLower, h, number?_hexDigits, hval]

theorem hasDigits_of_number? {n : Nat} (hlen : digits.length = 32) (h : Hex.number? digits = some n) :
    Uuid.HasDigits ⟨BitVec.ofNat 128 n⟩ digits := by
  obtain ⟨hlt, hdigits⟩ := map_toLower_of_number? h
  rw [hlen] at hlt hdigits
  have hval : (BitVec.ofNat 128 n).toNat = n := by
    rw [BitVec.toNat_ofNat]
    exact Nat.mod_eq_of_lt hlt
  rw [Uuid.HasDigits, hdigits, hval]

theorem Uuid.HasDigits.hyphen_notMem (h : u.HasDigits digits) : '-' ∉ digits := fun hc =>
  absurd (toNat_of_mem_digits h hc).1 (by decide)

theorem hasDigits_hexDigits (u : Uuid) : u.HasDigits (hexDigits 32 u.value.toNat) := by
  have hval : u.value.toNat % Nat.pow 16 32 = u.value.toNat := Nat.mod_eq_of_lt u.value.isLt
  have hnumber : Hex.number? (hexDigits 32 u.value.toNat) = some u.value.toNat := by rw [number?_hexDigits, hval]
  have h := (map_toLower_of_number? hnumber).2
  rwa [length_hexDigits] at h

end Digits

/-! ## Wrappings -/

theorem inBraces?_eq_some_iff {cs part : List Char} : inBraces? cs = some part ↔ cs = '{' :: part ++ ['}'] := by
  constructor
  · intro h
    unfold inBraces? at h
    split at h
    · rename_i r
      split_ifs at h with hlast
      cases h
      obtain ⟨part, rfl⟩ := List.getLast?_eq_some_iff.1 hlast
      rw [List.dropLast_concat, List.cons_append]
    · cases h
  · rintro rfl
    rw [List.cons_append, inBraces?, if_pos List.getLast?_concat, List.dropLast_concat]

theorem afterUrn?_eq_some_iff {cs part : List Char} :
    afterUrn? cs = some part ↔ ∃ mark, mark.map Char.toLower = urnMark ∧ cs = mark ++ part := by
  unfold afterUrn?
  constructor
  · intro h
    split_ifs at h with hmark
    cases h
    exact ⟨_, hmark, (List.take_append_drop _ cs).symm⟩
  · rintro ⟨mark, hmark, rfl⟩
    have hlen : mark.length = urnMark.length := by rw [← hmark, List.length_map]
    rw [List.take_left' hlen, List.drop_left' hlen, if_pos hmark]

/-- The groups are sought in the whole text, between braces and after the mark of a name. -/
theorem hyphenatedPart?_eq_some_iff {cs part : List Char} :
    hyphenatedPart? cs = some part ↔
      byteLength cs = 36 ∧ cs = part ∨ byteLength cs = 38 ∧ cs = '{' :: part ++ ['}'] ∨
        byteLength cs = 45 ∧ ∃ mark, mark.map Char.toLower = urnMark ∧ cs = mark ++ part := by
  unfold hyphenatedPart?
  split_ifs with h36 h38 h45
  · simp [h36]
  · simp [h38, inBraces?_eq_some_iff]
  · simp [h45, afterUrn?_eq_some_iff]
  · simp [h36, h38, h45]

/-- Groups of the right lengths are the groups of the digits that they hold together. -/
theorem eq_hyphenate_of_joinGroups? {part digits : List Char} (h : joinGroups? part = some digits) :
    digits.length = 32 ∧ part = hyphenate digits := by
  unfold joinGroups? at h
  simp only at h
  split_ifs at h with hlengths
  cases h
  have hpart : part = ['-'].intercalate (part.splitOn '-') := (List.intercalate_splitOn '-').symm
  generalize part.splitOn '-' = parts at hlengths hpart ⊢
  obtain ⟨a, parts, rfl, ha, hlengths⟩ := List.map_eq_cons_iff.1 hlengths
  obtain ⟨b, parts, rfl, hb, hlengths⟩ := List.map_eq_cons_iff.1 hlengths
  obtain ⟨c, parts, rfl, hc, hlengths⟩ := List.map_eq_cons_iff.1 hlengths
  obtain ⟨d, parts, rfl, hd, hlengths⟩ := List.map_eq_cons_iff.1 hlengths
  obtain ⟨e, rfl, he⟩ := List.map_eq_singleton_iff.1 hlengths
  have hgroups : groups [a, b, c, d, e].flatten = [a, b, c, d, e] := by
    simp [groups, List.drop_append, List.drop_eq_nil_of_le, ha, hb, hc, hd]
  refine ⟨by simp [ha, hb, hc, hd, he], ?_⟩
  rw [hyphenate_eq, hgroups]
  exact hpart

/-! ## Reading -/

/-- An ASCII text without blanks is stripped of nothing, and has a byte for each character. -/
def IsVisible (cs : List Char) : Prop := ∀ c ∈ cs, 33 ≤ c.toNat ∧ c.toNat < 128

theorem IsVisible.strip_eq {cs : List Char} (h : IsVisible cs) : strip cs = cs :=
  strip_of_forall fun c hc => isBlank_eq_false (h c hc).1 (h c hc).2

theorem IsVisible.byteLength_eq {cs : List Char} (h : IsVisible cs) : byteLength cs = cs.length :=
  byteLength_of_lt fun c hc => (h c hc).2

theorem isVisible_append {a b : List Char} : IsVisible (a ++ b) ↔ IsVisible a ∧ IsVisible b := List.forall_mem_append

theorem isVisible_cons {c : Char} {cs : List Char} :
    IsVisible (c :: cs) ↔ (33 ≤ c.toNat ∧ c.toNat < 128) ∧ IsVisible cs := List.forall_mem_cons

theorem isVisible_mark {mark : List Char} (h : mark.map Char.toLower = urnMark) : IsVisible mark := by
  intro c hc
  have hall : urnMark.all (fun d => decide (33 ≤ d.toNat ∧ d.toNat < 128)) = true := by decide
  have hlower := of_decide_eq_true (List.all_eq_true.1 hall c.toLower (h ▸ List.mem_map_of_mem hc))
  rcases toLower_eq (c := c) rfl with heq | ⟨hlo, hhi, -⟩
  · rw [heq]
    exact hlower
  · omega

theorem length_hyphenate {digits : List Char} (h : digits.length = 32) : (hyphenate digits).length = 36 := by
  simp [hyphenate, h]

section Digits

variable {u : Uuid} {digits : List Char} (h : u.HasDigits digits)
include h

theorem Uuid.HasDigits.isVisible : IsVisible digits := by
  intro c hc
  have := toNat_of_mem_digits h hc
  omega

theorem Uuid.HasDigits.isVisible_hyphenate : IsVisible (hyphenate digits) := by
  intro c hc
  rcases mem_hyphenate hc with rfl | hc
  · decide
  · exact h.isVisible c hc

theorem uuidDigits?_of_hyphenatedPart? {cs : List Char} (hlen : byteLength cs ≠ 32)
    (hpart : hyphenatedPart? cs = some (hyphenate digits)) : uuidDigits? cs = some digits := by
  rw [uuidDigits?, if_neg hlen, hpart, Option.bind_some, joinGroups?_hyphenate h.length_eq h.hyphen_notMem]

end Digits

/-- A spelling of an identifier, without the blanks around it, is read as its digits. -/
theorem exists_uuidDigits?_of_isSpelling {u : Uuid} {cs : List Char} (h : u.IsSpelling cs) :
    ∃ digits, u.HasDigits digits ∧ uuidDigits? (strip cs) = some digits := by
  induction h with
  | @bare digits h =>
    refine ⟨digits, h, ?_⟩
    rw [h.isVisible.strip_eq, uuidDigits?, if_pos (h.isVisible.byteLength_eq.trans h.length_eq)]
  | @hyphenated digits h =>
    have hvisible := h.isVisible_hyphenate
    have hbytes : byteLength (hyphenate digits) = 36 := hvisible.byteLength_eq.trans (length_hyphenate h.length_eq)
    refine ⟨digits, h, ?_⟩
    rw [hvisible.strip_eq]
    exact uuidDigits?_of_hyphenatedPart? h (by omega) (hyphenatedPart?_eq_some_iff.2 (.inl ⟨hbytes, rfl⟩))
  | @braced digits h =>
    have hvisible : IsVisible ('{' :: hyphenate digits ++ ['}']) :=
      isVisible_append.2
        ⟨isVisible_cons.2 ⟨by decide, h.isVisible_hyphenate⟩, isVisible_cons.2 ⟨by decide, List.forall_mem_nil _⟩⟩
    have hbytes : byteLength ('{' :: hyphenate digits ++ ['}']) = 38 := by
      rw [hvisible.byteLength_eq]
      simp [length_hyphenate h.length_eq]
    refine ⟨digits, h, ?_⟩
    rw [hvisible.strip_eq]
    exact uuidDigits?_of_hyphenatedPart? h (by omega) (hyphenatedPart?_eq_some_iff.2 (.inr (.inl ⟨hbytes, rfl⟩)))
  | @named mark digits hmark h =>
    have hvisible : IsVisible (mark ++ hyphenate digits) :=
      isVisible_append.2 ⟨isVisible_mark hmark, h.isVisible_hyphenate⟩
    have hlen : mark.length = 9 := by
      rw [← List.length_map Char.toLower, hmark]
      rfl
    have hbytes : byteLength (mark ++ hyphenate digits) = 45 := by
      rw [hvisible.byteLength_eq, List.length_append, hlen, length_hyphenate h.length_eq]
    refine ⟨digits, h, ?_⟩
    rw [hvisible.strip_eq]
    exact uuidDigits?_of_hyphenatedPart? h (by omega)
      (hyphenatedPart?_eq_some_iff.2 (.inr (.inr ⟨hbytes, mark, hmark, rfl⟩)))
  | padded hfront hback _ ih => rwa [strip_append_right _ hback, strip_append_left hfront]

/-- What is read as digits of an identifier are 32 of them, alone or in groups that may be wrapped. -/
theorem isSpelling_of_uuidDigits? {cs digits : List Char} {n : Nat} (h : uuidDigits? cs = some digits)
    (hnumber : Hex.number? digits = some n) : Uuid.IsSpelling ⟨BitVec.ofNat 128 n⟩ cs := by
  unfold uuidDigits? at h
  split_ifs at h with hbare
  · cases h
    have hvisible : IsVisible cs := fun c hc => by
      have := toNat_of_mem_digits (map_toLower_of_number? hnumber).2 hc
      omega
    exact .bare (hasDigits_of_number? (hvisible.byteLength_eq.symm.trans hbare) hnumber)
  · obtain ⟨part, hpart, hgroups⟩ := Option.bind_eq_some_iff.1 h
    obtain ⟨hlen, rfl⟩ := eq_hyphenate_of_joinGroups? hgroups
    have hdigits := hasDigits_of_number? hlen hnumber
    rcases hyphenatedPart?_eq_some_iff.1 hpart with ⟨-, rfl⟩ | ⟨-, rfl⟩ | ⟨-, mark, hmark, rfl⟩
    · exact .hyphenated hdigits
    · exact .braced hdigits
    · exact .named hmark hdigits

theorem parse_trim_eq_ok_iff {s : String} {u : Uuid} : Uuid.parse (trim s) = .ok u ↔ u.IsSpelling s.toList := by
  rw [Uuid.parse, trim, String.toList_ofList]
  constructor
  · intro h
    split at h
    · rename_i n hread
      cases h
      obtain ⟨digits, hdigits, hnumber⟩ := Option.bind_eq_some_iff.1 hread
      obtain ⟨front, back, hfront, hback, heq⟩ := exists_blanks_around s.toList
      rw [heq]
      exact .padded hfront hback (isSpelling_of_uuidDigits? hdigits hnumber)
    · cases h
  · intro h
    obtain ⟨digits, hdigits, hread⟩ := exists_uuidDigits?_of_isSpelling h
    rw [hread, Option.bind_some, hdigits.number?]
    simp

end Gatehouse.Identity
