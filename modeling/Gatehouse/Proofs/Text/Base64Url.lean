/-
Reading base64 digits gives back the bytes that were written, and what is written stays in the
alphabet. Whatever is read was written so: bytes have one spelling, without padding and spare bits.
-/
import Gatehouse.Text.Base64Url
import Mathlib.Tactic.SplitIfs

namespace Gatehouse.Text.Base64Url

theorem ofNat_of_eq_toNat {b : UInt8} {n : Nat} (h : n = b.toNat) : UInt8.ofNat n = b := by
  subst h; exact UInt8.ofNat_toNat

/-! ## Reading what was written -/

theorem decode?_encode (bs : List UInt8) : decode? (encode bs) = some bs := by
  fun_induction encode bs with
  | case1 => rfl
  | case2 a =>
    have ha := a.toNat_lt
    simp only [decode?, value?_digit _ (show a.toNat / 4 < 64 by omega),
      value?_digit _ (show a.toNat % 4 * 16 < 64 by omega), Option.bind_eq_bind, Option.bind_some]
    rw [if_pos (by omega), ofNat_of_eq_toNat (b := a) (by omega)]
  | case3 a b =>
    have ha := a.toNat_lt
    have hb := b.toNat_lt
    simp only [decode?, value?_digit _ (show a.toNat / 4 < 64 by omega),
      value?_digit _ (show a.toNat % 4 * 16 + b.toNat / 16 < 64 by omega),
      value?_digit _ (show b.toNat % 16 * 4 < 64 by omega), Option.bind_eq_bind, Option.bind_some]
    rw [if_pos (by omega), ofNat_of_eq_toNat (b := a) (by omega), ofNat_of_eq_toNat (b := b) (by omega)]
  | case4 a b c r ih =>
    have ha := a.toNat_lt
    have hb := b.toNat_lt
    have hc := c.toNat_lt
    simp only [decode?, value?_digit _ (show a.toNat / 4 < 64 by omega),
      value?_digit _ (show a.toNat % 4 * 16 + b.toNat / 16 < 64 by omega),
      value?_digit _ (show b.toNat % 16 * 4 + c.toNat / 64 < 64 by omega),
      value?_digit _ (show c.toNat % 64 < 64 by omega), ih, Option.bind_eq_bind, Option.bind_some]
    rw [ofNat_of_eq_toNat (b := a) (by omega), ofNat_of_eq_toNat (b := b) (by omega),
      ofNat_of_eq_toNat (b := c) (by omega)]
    rfl

theorem length_encode (bs : List UInt8) : (encode bs).length = (4 * bs.length + 2) / 3 := by
  fun_induction encode bs with
  | case1 => rfl
  | case2 a => simp only [List.length_cons, List.length_nil]
  | case3 a b => simp only [List.length_cons, List.length_nil]
  | case4 a b c r ih =>
    simp only [List.length_cons, ih]
    omega

/-! ## The alphabet -/

/-- A character of the alphabet. -/
def isDigit (c : Char) : Bool := (value? c).isSome

theorem isDigit_digit {n : Nat} (h : n < 64) : isDigit (digit n) = true := by
  rw [isDigit, value?_digit n h]; rfl

theorem all_isDigit_encode (bs : List UInt8) : (encode bs).all isDigit = true := by
  fun_induction encode bs with
  | case1 => rfl
  | case2 a =>
    have := a.toNat_lt
    simp only [List.all_cons, List.all_nil, Bool.and_true, Bool.and_eq_true]
    exact ⟨isDigit_digit (by omega), isDigit_digit (by omega)⟩
  | case3 a b =>
    have := a.toNat_lt
    have := b.toNat_lt
    simp only [List.all_cons, List.all_nil, Bool.and_true, Bool.and_eq_true]
    exact ⟨isDigit_digit (by omega), isDigit_digit (by omega), isDigit_digit (by omega)⟩
  | case4 a b c r ih =>
    have := a.toNat_lt
    have := b.toNat_lt
    have := c.toNat_lt
    simp only [List.all_cons, Bool.and_eq_true]
    exact ⟨isDigit_digit (by omega), isDigit_digit (by omega), isDigit_digit (by omega),
      isDigit_digit (by omega), ih⟩

theorem isDigit_of_mem_encode {bs : List UInt8} {c : Char} (h : c ∈ encode bs) : isDigit c = true :=
  List.all_eq_true.1 (all_isDigit_encode bs) c h

theorem toNat_le {a b : Char} (h : a ≤ b) : a.toNat ≤ b.toNat := h

theorem toNat_of_isDigit {c : Char} (h : isDigit c = true) : 45 ≤ c.toNat ∧ c.toNat ≤ 122 ∧ c.toNat ≠ 59 := by
  rw [isDigit, value?] at h
  split_ifs at h with hupper hlower hdigit hhyphen hline
  · have hlo : 65 ≤ c.toNat := toNat_le hupper.1
    have hhi : c.toNat ≤ 90 := toNat_le hupper.2
    omega
  · have hlo : 97 ≤ c.toNat := toNat_le hlower.1
    have hhi : c.toNat ≤ 122 := toNat_le hlower.2
    omega
  · have hlo : 48 ≤ c.toNat := toNat_le hdigit.1
    have hhi : c.toNat ≤ 57 := toNat_le hdigit.2
    omega
  · subst hhyphen; decide
  · subst hline; decide
  · exact nomatch h

/-! ## One spelling -/

theorem eq_digit_of_value? {c : Char} {n : Nat} (h : value? c = some n) : n < 64 ∧ c = digit n := by
  have hofNat : ∀ m, m = c.toNat → c = Char.ofNat m := by
    rintro m rfl
    exact (Char.ofNat_toNat c).symm
  unfold value? at h
  split_ifs at h with hupper hlower hdigit hhyphen hline
  · have hlo : 65 ≤ c.toNat := toNat_le hupper.1
    have hhi : c.toNat ≤ 90 := toNat_le hupper.2
    cases h
    refine ⟨by omega, ?_⟩
    rw [digit, if_pos (by omega)]
    exact hofNat _ (by omega)
  · have hlo : 97 ≤ c.toNat := toNat_le hlower.1
    have hhi : c.toNat ≤ 122 := toNat_le hlower.2
    cases h
    refine ⟨by omega, ?_⟩
    rw [digit, if_neg (by omega), if_pos (by omega)]
    exact hofNat _ (by omega)
  · have hlo : 48 ≤ c.toNat := toNat_le hdigit.1
    have hhi : c.toNat ≤ 57 := toNat_le hdigit.2
    cases h
    refine ⟨by omega, ?_⟩
    rw [digit, if_neg (by omega), if_neg (by omega), if_pos (by omega)]
    exact hofNat _ (by omega)
  · subst hhyphen
    cases h
    decide
  · subst hline
    cases h
    decide

theorem toNat_ofNat {n : Nat} (h : n < 256) : (UInt8.ofNat n).toNat = n := by
  rw [UInt8.toNat_ofNat', Nat.mod_eq_of_lt h]

theorem eq_encode_of_decode? {cs : List Char} {bs : List UInt8} (h : decode? cs = some bs) : cs = encode bs := by
  fun_induction decode? cs generalizing bs with
  | case1 => cases h; rfl
  | case2 => cases h
  | case3 p q =>
    simp only [Option.bind_eq_bind, Option.bind_eq_some_iff] at h
    obtain ⟨w, hw, x, hx, h⟩ := h
    obtain ⟨hw, rfl⟩ := eq_digit_of_value? hw
    obtain ⟨hx, rfl⟩ := eq_digit_of_value? hx
    split_ifs at h with hspare
    cases h
    simp only [encode]
    rw [toNat_ofNat (by omega)]
    congr <;> omega
  | case4 p q s =>
    simp only [Option.bind_eq_bind, Option.bind_eq_some_iff] at h
    obtain ⟨w, hw, x, hx, y, hy, h⟩ := h
    obtain ⟨hw, rfl⟩ := eq_digit_of_value? hw
    obtain ⟨hx, rfl⟩ := eq_digit_of_value? hx
    obtain ⟨hy, rfl⟩ := eq_digit_of_value? hy
    split_ifs at h with hspare
    cases h
    simp only [encode]
    rw [toNat_ofNat (by omega), toNat_ofNat (by omega)]
    congr <;> omega
  | case5 p q s t r ih =>
    simp only [Option.bind_eq_bind, Option.bind_eq_some_iff] at h
    obtain ⟨w, hw, x, hx, y, hy, z, hz, rest, hrest, h⟩ := h
    obtain ⟨hw, rfl⟩ := eq_digit_of_value? hw
    obtain ⟨hx, rfl⟩ := eq_digit_of_value? hx
    obtain ⟨hy, rfl⟩ := eq_digit_of_value? hy
    obtain ⟨hz, rfl⟩ := eq_digit_of_value? hz
    cases h
    simp only [encode]
    rw [toNat_ofNat (by omega), toNat_ofNat (by omega), toNat_ofNat (by omega), ← ih hrest]
    congr <;> omega

theorem decode?_eq_some_iff {cs : List Char} {bs : List UInt8} : decode? cs = some bs ↔ cs = encode bs := by
  constructor
  · exact eq_encode_of_decode?
  · rintro rfl
    exact decode?_encode bs

/-- A text with a character outside of the alphabet, such as the sign for padding, is not read. -/
theorem decode?_of_not_isDigit {cs : List Char} {c : Char} (hc : c ∈ cs) (h : isDigit c = false) : decode? cs = none := by
  cases hdecode : decode? cs with
  | none => rfl
  | some bs =>
    obtain rfl := eq_encode_of_decode? hdecode
    rw [isDigit_of_mem_encode hc] at h
    cases h

/-- The last digit has a bit set that belongs to no byte. -/
def HasSpareBits (cs : List Char) : Prop :=
  ∃ last n, cs.getLast? = some last ∧ value? last = some n ∧
    (cs.length % 4 = 2 ∧ n % 16 ≠ 0 ∨ cs.length % 4 = 3 ∧ n % 4 ≠ 0)

theorem decode?_of_hasSpareBits {cs : List Char} (h : HasSpareBits cs) : decode? cs = none := by
  obtain ⟨last, n, hlast, hn, hspare⟩ := h
  fun_induction decode? cs with
  | case1 => cases hlast
  | case2 => rfl
  | case3 p q =>
    obtain rfl : q = last := by simpa using hlast
    have hq : n % 16 ≠ 0 := by simpa using hspare
    rw [hn]
    cases value? p <;> simp [hq]
  | case4 p q s =>
    obtain rfl : s = last := by simpa using hlast
    have hs : n % 4 ≠ 0 := by simpa using hspare
    rw [hn]
    cases value? p <;> cases value? q <;> simp [hs]
  | case5 p q s t r ih =>
    -- four digits more leave the last digit and what it is spare of as they are
    have hr : r ≠ [] := by
      rintro rfl
      simp at hspare
    have hrest : decode? r = none := by
      apply ih
      · rw [← hlast]
        obtain ⟨c, cs, rfl⟩ := List.exists_cons_of_ne_nil hr
        simp only [List.getLast?_cons_cons]
      · simp only [List.length_cons] at hspare
        omega
    rw [hrest]
    cases value? p <;> cases value? q <;> cases value? s <;> cases value? t <;> rfl

end Gatehouse.Text.Base64Url
