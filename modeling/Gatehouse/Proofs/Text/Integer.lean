/-
Which texts are whole numbers. A number may have zeros in front of its digits and a sign in front of these,
and every text that is read as a number is spelled so: reading fixes the number, not the spelling.
-/
import Gatehouse.Text.Integer
import Mathlib.Data.List.Induction

namespace Gatehouse.Text.Integer

/-! ## Spellings -/

/-- The digits of the number, perhaps with zeros in front of them. -/
def IsNumeral (cs : List Char) (n : Nat) : Prop := ∃ zeros, cs = List.replicate zeros '0' ++ digits n

/-- A numeral of the number, perhaps with a plus. -/
inductive SpellsNatural : List Char → Nat → Prop
  | plain {cs : List Char} {n : Nat} (h : IsNumeral cs n) : SpellsNatural cs n
  | plus {cs : List Char} {n : Nat} (h : IsNumeral cs n) : SpellsNatural ('+' :: cs) n

/-- A natural number so spelled, or a numeral behind a minus. -/
inductive SpellsInteger : List Char → Int → Prop
  | natural {cs : List Char} {n : Nat} (h : SpellsNatural cs n) : SpellsInteger cs n
  | minus {cs : List Char} {n : Nat} (h : IsNumeral cs n) : SpellsInteger ('-' :: cs) (-n)

/-! ## Numerals -/

theorem IsNumeral.isDigit {cs : List Char} {n : Nat} (h : IsNumeral cs n) : ∀ c ∈ cs, c.isDigit = true := by
  obtain ⟨zeros, rfl⟩ := h
  intro c hc
  rcases List.mem_append.1 hc with hc | hc
  · rw [List.eq_of_mem_replicate hc]
    rfl
  · exact Nat.isDigit_of_mem_toDigits (by decide) (by decide) hc

theorem IsNumeral.ne_nil {cs : List Char} {n : Nat} (h : IsNumeral cs n) : cs ≠ [] := by
  obtain ⟨zeros, rfl⟩ := h
  exact List.append_ne_nil_of_right_ne_nil _ Nat.toDigits_ne_nil

theorem IsNumeral.ofDigitChars {cs : List Char} {n : Nat} (h : IsNumeral cs n) : Nat.ofDigitChars 10 cs 0 = n := by
  obtain ⟨zeros, rfl⟩ := h
  rw [Nat.ofDigitChars_append, Nat.ofDigitChars_replicate_zero, Nat.mul_zero]
  exact Nat.ofDigitChars_ten_toDigits

theorem exists_digitChar {c : Char} (h : c.isDigit = true) : ∃ d < 10, c = Nat.digitChar d := by
  have hlo : 48 ≤ c.toNat := (Char.isDigit_iff_toNat.1 h).1
  have hhi : c.toNat ≤ 57 := (Char.isDigit_iff_toNat.1 h).2
  refine ⟨c.toNat - 48, by omega, ?_⟩
  rw [← Char.toNat_inj, Nat.toNat_digitChar_of_lt_ten (by omega)]
  omega

theorem isNumeral_of_isDigit {cs : List Char} (hne : cs ≠ []) (h : ∀ c ∈ cs, c.isDigit = true) :
    IsNumeral cs (Nat.ofDigitChars 10 cs 0) := by
  induction cs using List.reverseRecOn with
  | nil => exact absurd rfl hne
  | append_singleton cs c ih =>
    obtain ⟨d, hd, rfl⟩ := exists_digitChar (h c (by simp))
    have hvalue : Nat.ofDigitChars 10 (cs ++ [Nat.digitChar d]) 0 = 10 * Nat.ofDigitChars 10 cs 0 + d := by
      rw [Nat.ofDigitChars_append, Nat.ofDigitChars_cons_digitChar_of_lt_ten hd, Nat.ofDigitChars_nil]
    rw [hvalue]
    by_cases hcs : cs = []
    · rw [hcs, Nat.ofDigitChars_nil, Nat.mul_zero, Nat.zero_add]
      exact ⟨0, (Nat.toDigits_of_lt_base hd).symm⟩
    obtain ⟨zeros, hzeros⟩ := ih hcs fun c hc => h c (List.mem_append_left _ hc)
    rcases Nat.eq_zero_or_pos (Nat.ofDigitChars 10 cs 0) with hzero | hpos
    · -- so far there are zeros only, the last of which no longer counts as a digit
      refine ⟨zeros + 1, ?_⟩
      rw [hzero] at hzeros ⊢
      rw [hzeros, digits, Nat.toDigits_zero, Nat.mul_zero, Nat.zero_add, digits, Nat.toDigits_of_lt_base hd,
        List.replicate_succ']
    · refine ⟨zeros, ?_⟩
      rw [digits, ← Nat.toDigits_append_toDigits (by decide) hpos hd, Nat.toDigits_of_lt_base hd, ← List.append_assoc]
      exact congrArg (· ++ [Nat.digitChar d]) hzeros

theorem digits?_eq_some_iff {cs : List Char} {n : Nat} : digits? cs = some n ↔ IsNumeral cs n := by
  constructor
  · intro h
    unfold digits? at h
    split at h
    · cases h
    · rename_i hdigits
      simp only [Bool.or_eq_true, List.isEmpty_iff, Bool.not_eq_true', not_or, Bool.not_eq_false,
        List.all_eq_true] at hdigits
      cases h
      exact isNumeral_of_isDigit hdigits.1 hdigits.2
  · intro h
    have hne : cs.isEmpty = false := List.isEmpty_eq_false_iff.2 h.ne_nil
    have hdigits : cs.all Char.isDigit = true := List.all_eq_true.2 h.isDigit
    simp [digits?, hne, hdigits, h.ofDigitChars]

/-! ## Signs -/

theorem IsNumeral.head_ne {c : Char} {cs : List Char} {n : Nat} (h : IsNumeral (c :: cs) n) : c ≠ '+' ∧ c ≠ '-' := by
  have hdigit : c.isDigit = true := h.isDigit c (List.mem_cons_self ..)
  constructor
  · rintro rfl
    cases hdigit
  · rintro rfl
    cases hdigit

theorem natural?_eq_some_iff {cs : List Char} {n : Nat} : natural? cs = some n ↔ SpellsNatural cs n := by
  constructor
  · intro h
    unfold natural? at h
    split at h
    · exact .plus (digits?_eq_some_iff.1 h)
    · exact .plain (digits?_eq_some_iff.1 h)
  · rintro (h | h)
    · unfold natural?
      split
      · exact absurd rfl h.head_ne.1
      · exact digits?_eq_some_iff.2 h
    · exact digits?_eq_some_iff.2 h

theorem integer?_eq_some_iff {cs : List Char} {i : Int} : integer? cs = some i ↔ SpellsInteger cs i := by
  constructor
  · intro h
    unfold integer? at h
    split at h
    all_goals
      obtain ⟨n, hn, rfl⟩ := Option.map_eq_some_iff.1 h
      have hnumeral := digits?_eq_some_iff.1 hn
    · exact .natural (.plus hnumeral)
    · exact .minus hnumeral
    · exact .natural (.plain hnumeral)
  · rintro ((h | h) | h)
    · unfold integer?
      split
      · exact absurd rfl h.head_ne.1
      · exact absurd rfl h.head_ne.2
      · rw [digits?_eq_some_iff.2 h]
        rfl
    · rw [integer?, digits?_eq_some_iff.2 h]
      rfl
    · rw [integer?, digits?_eq_some_iff.2 h]
      rfl

end Gatehouse.Text.Integer
