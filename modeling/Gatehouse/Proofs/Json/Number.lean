/-
Whole numbers survive being written and read: the digits of an integer that fits a 64-bit word are
read as that integer, and reading stops before whatever cannot go on a number.
-/
import Gatehouse.Json.Syntax
import Gatehouse.Json.Value
import Gatehouse.Proofs.Text.Utf8

namespace Gatehouse.Json

open Gatehouse.Text

/-! ## Digits -/

/-- The number of an ASCII digit. -/
def digitNumber (c : Char) : Nat := c.toNat - 48

theorem digit?_of_isDigit {c : Char} (h : c.isDigit = true) :
    digit? (UInt8.ofNat c.toNat) = some (digitNumber c) := by
  obtain ⟨h0, h9⟩ := Char.isDigit_iff_toNat.1 h
  have h0 : 48 ≤ c.toNat := h0
  have h9 : c.toNat ≤ 57 := h9
  have hval : (UInt8.ofNat c.toNat).toNat = c.toNat := by
    rw [UInt8.toNat_ofNat', Nat.mod_eq_of_lt (by omega)]
  have hin : 48 ≤ UInt8.ofNat c.toNat ∧ UInt8.ofNat c.toNat ≤ 57 := by
    constructor
    · show 48 ≤ (UInt8.ofNat c.toNat).toNat
      omega
    · show (UInt8.ofNat c.toNat).toNat ≤ 57
      omega
  rw [digit?, if_pos hin, hval]
  rfl

/-- The bytes do not begin with a digit. -/
def StartsNoDigit (bs : List UInt8) : Prop := ∀ b r, bs = b :: r → digit? b = none

theorem readDigits_of_startsNoDigit {bs : List UInt8} (h : StartsNoDigit bs) : readDigits bs = ([], bs) := by
  rcases bs with _ | ⟨b, r⟩
  · rfl
  · simp only [readDigits, h b r rfl]

theorem readDigits_append {cs : List Char} (hcs : ∀ c ∈ cs, c.isDigit = true) {rest : List UInt8}
    (hr : StartsNoDigit rest) : readDigits (utf8Bytes cs ++ rest) = (cs.map digitNumber, rest) := by
  induction cs with
  | nil => exact readDigits_of_startsNoDigit hr
  | cons c cs ih =>
    have hc := hcs c (List.mem_cons_self ..)
    have hlt : c.toNat < 128 := by
      have h9 : c.toNat ≤ 57 := (Char.isDigit_iff_toNat.1 hc).2
      omega
    rw [utf8Bytes_cons, utf8EncodeChar_of_lt hlt, List.singleton_append, List.cons_append, readDigits,
      digit?_of_isDigit hc]
    simp only [ih fun d hd => hcs d (List.mem_cons_of_mem _ hd), List.map_cons]

theorem isDigit_of_mem_digits {n : Nat} {c : Char} (h : c ∈ Integer.digits n) : c.isDigit = true :=
  Nat.isDigit_of_mem_toDigits (by decide) (by decide) h

theorem digits_ne_nil (n : Nat) : Integer.digits n ≠ [] := Nat.toDigits_ne_nil

theorem ofDigits_digits (n : Nat) : ofDigits ((Integer.digits n).map digitNumber) = n := by
  rw [ofDigits, List.foldl_map]
  exact Nat.ofDigitChars_ten_toDigits (n := n)

theorem head?_digits_of_pos {n : Nat} (h : 0 < n) : ((Integer.digits n).map digitNumber).head? ≠ some 0 := by
  induction n using Nat.strongRecOn with
  | ind n ih =>
    rw [Integer.digits, Nat.toDigits_eq_if (by decide)]
    split
    · rename_i hn
      have : ∀ m < 10, 0 < m → digitNumber m.digitChar ≠ 0 := by decide
      simpa using this n hn h
    · rename_i hn
      -- the first digit of a longer number is the first digit of its tenth
      have hpos : 0 < n / 10 := by omega
      have := ih (n / 10) (by omega) hpos
      rw [Integer.digits] at this
      obtain ⟨c, cs, hcs⟩ := List.exists_cons_of_ne_nil (Nat.toDigits_ne_nil (b := 10) (n := n / 10))
      rw [hcs] at this ⊢
      simpa using this

theorem noLeadingZero (n : Nat) :
    (((Integer.digits n).map digitNumber).head? == some 0 &&
      ((Integer.digits n).map digitNumber).length != 1) = false := by
  rcases Nat.eq_zero_or_pos n with rfl | h
  · rfl
  · have := head?_digits_of_pos h
    rw [Bool.and_eq_false_iff]
    exact .inl (by simpa using this)

/-! ## Numbers -/

/-- The bytes cannot go on a number. -/
def EndsNumber (bs : List UInt8) : Prop :=
  ∀ b r, bs = b :: r → digit? b = none ∧ b ≠ 46 ∧ b ≠ 101 ∧ b ≠ 69

theorem endsNumber_nil : EndsNumber [] := by
  intro b r h; cases h

theorem endsNumber_cons {b : UInt8} {r : List UInt8} (h : digit? b = none ∧ b ≠ 46 ∧ b ≠ 101 ∧ b ≠ 69) :
    EndsNumber (b :: r) := by
  intro b' r' h'; cases h'; exact h

theorem EndsNumber.startsNoDigit {bs : List UInt8} (h : EndsNumber bs) : StartsNoDigit bs :=
  fun b r hb => (h b r hb).1

theorem readExponent_of_endsNumber {rest : List UInt8} (h : EndsNumber rest) :
    readExponent rest = some (none, rest) := by
  rcases rest with _ | ⟨b, r⟩
  · rfl
  · obtain ⟨-, -, he, hE⟩ := h b r rfl
    rw [readExponent.eq_def]
    exact if_neg (by simp [he, hE])

/-- The number at the front of the bytes when its sign has been read. -/
def readUnsigned (negative : Bool) (bs : List UInt8) : Option (Numeral × List UInt8) := do
  let (whole, bs) := readDigits bs
  if whole.isEmpty || (whole.head? == some 0 && whole.length != 1) then none
  else
    let (fraction, bs) ←
      match bs with
      | 46 :: r => let (ds, r) := readDigits r; if ds.isEmpty then none else some (ds, r)
      | bs => some ([], bs)
    let (exponent, bs) ← readExponent bs
    return (⟨negative, whole, fraction, exponent⟩, bs)

/-- The sign at the front of the bytes, and what follows it. -/
def readSign : List UInt8 → Bool × List UInt8
  | 45 :: r => (true, r)
  | bs => (false, bs)

theorem readSign_of_ne_minus {b : UInt8} (h : b ≠ 45) (r : List UInt8) :
    readSign (b :: r) = (false, b :: r) := by
  unfold readSign
  split
  · rename_i heq; injection heq with h1 h2; exact absurd h1 h
  · rfl

theorem readNumeral_eq (bs : List UInt8) : readNumeral bs = readUnsigned (readSign bs).1 (readSign bs).2 := rfl

/-- Digits are read as a whole number when nothing that follows can go on it. -/
theorem readUnsigned_digits (negative : Bool) (n : Nat) {rest : List UInt8} (h : EndsNumber rest) :
    readUnsigned negative (utf8Bytes (Integer.digits n) ++ rest) =
      some (⟨negative, (Integer.digits n).map digitNumber, [], none⟩, rest) := by
  have hds := readDigits_append (fun _ => isDigit_of_mem_digits (n := n)) h.startsNoDigit
  have hne : ((Integer.digits n).map digitNumber).isEmpty = false := by simp [digits_ne_nil]
  simp only [readUnsigned, hds, hne, noLeadingZero, Bool.or_self, Bool.false_eq_true, if_false]
  split
  · rename_i r; exact absurd rfl (h 46 r rfl).2.1
  · simp [readExponent_of_endsNumber h]

/-- The spelling of an integer. -/
def numeralOf (i : Int) : Numeral := ⟨decide (i < 0), (Integer.digits i.natAbs).map digitNumber, [], none⟩

theorem utf8Bytes_digits (n : Nat) : ∃ (c : Char) (r : List UInt8), c.isDigit = true ∧
    utf8Bytes (Integer.digits n) = UInt8.ofNat c.toNat :: r := by
  obtain ⟨c, cs, h⟩ := List.exists_cons_of_ne_nil (digits_ne_nil n)
  have hc : c.isDigit = true := isDigit_of_mem_digits (n := n) (by rw [h]; exact List.mem_cons_self ..)
  have h9 : c.toNat ≤ 57 := (Char.isDigit_iff_toNat.1 hc).2
  refine ⟨c, utf8Bytes cs, hc, ?_⟩
  rw [h, utf8Bytes_cons, utf8EncodeChar_of_lt (by omega)]
  rfl

/-- A whole number is read as its spelling when nothing that follows can go on it. -/
theorem readNumeral_signedDigits (i : Int) {rest : List UInt8} (h : EndsNumber rest) :
    readNumeral (utf8Bytes (Integer.signedDigits i) ++ rest) = some (numeralOf i, rest) := by
  unfold Integer.signedDigits numeralOf
  split
  · rename_i hi
    rw [utf8Bytes_cons, show String.utf8EncodeChar '-' = [45] from rfl, List.singleton_append,
      List.cons_append, readNumeral_eq]
    refine (readUnsigned_digits true _ h).trans ?_
    simp [hi]
  · rename_i hi
    obtain ⟨c, r, hc, hb⟩ := utf8Bytes_digits i.natAbs
    have hne : UInt8.ofNat c.toNat ≠ 45 := by
      intro h45
      have := digit?_of_isDigit hc
      rw [h45] at this
      cases this
    have hr := readUnsigned_digits false i.natAbs h
    rw [hb, List.cons_append] at hr ⊢
    rw [readNumeral_eq, readSign_of_ne_minus hne, hr]
    simp [hi]

/-- The integer fits a signed or an unsigned 64-bit word. -/
def fitsWord (i : Int) : Prop := Integer.minSigned ≤ i ∧ i ≤ Integer.maxUnsigned

theorem shape_numeralOf {i : Int} (h : fitsWord i) : (numeralOf i).shape = .integer i := by
  obtain ⟨hlo, hhi⟩ := h
  simp only [Integer.minSigned, Integer.maxUnsigned] at hlo hhi
  have hint : (numeralOf i).integer? = some i := by
    simp only [numeralOf, Numeral.integer?, Integer.maxUnsigned, List.isEmpty_nil, Option.isNone_none, Bool.and_self, if_true,
      ofDigits_digits]
    by_cases hi : i < 0
    · simp only [hi, decide_true, if_true]
      rw [if_neg (by omega)]
      exact congrArg some (by rw [Int.ofNat_eq_natCast]; omega)
    · simp only [hi, decide_false, Bool.false_eq_true, if_false]
      rw [if_pos (by omega)]
      exact congrArg some (by rw [Int.ofNat_eq_natCast]; omega)
  rw [Numeral.shape, hint]

end Gatehouse.Json
