/-
Whole numbers in decimal. Reading takes ASCII digits, at least one, after an optional sign;
a number without a sign bit takes no minus. The bounds of a word are the caller's to check.
-/
namespace Gatehouse.Text.Integer

/-- The digits of a natural number, without leading zeros. -/
def digits (n : Nat) : List Char := Nat.toDigits 10 n

/-- The digits of an integer, after a minus if it is negative. -/
def signedDigits (i : Int) : List Char :=
  if i < 0 then '-' :: digits i.natAbs else digits i.natAbs

/-- The number that a non-empty run of ASCII digits writes. -/
def digits? (cs : List Char) : Option Nat :=
  if cs.isEmpty || !cs.all Char.isDigit then none else some (Nat.ofDigitChars 10 cs 0)

/-- A natural number, after an optional plus. -/
def natural? : List Char → Option Nat
  | '+' :: r => digits? r
  | cs => digits? cs

/-- An integer, after an optional sign. -/
def integer? : List Char → Option Int
  | '+' :: r => (digits? r).map Int.ofNat
  | '-' :: r => (digits? r).map fun n => - Int.ofNat n
  | cs => (digits? cs).map Int.ofNat

/-- The digits of a natural number, filled up with zeros on the left to a width. -/
def padded (width n : Nat) : List Char :=
  List.replicate (width - (digits n).length) '0' ++ digits n

/-- The largest number of an unsigned 64-bit word. -/
def maxUnsigned : Nat := 0xffffffffffffffff

/-- The largest number of a signed 64-bit word. -/
def maxSigned : Int := 0x7fffffffffffffff

/-- The smallest number of a signed 64-bit word. -/
def minSigned : Int := -0x8000000000000000

/-- The digits of a natural number read as that number. -/
theorem digits?_digits (n : Nat) : digits? (digits n) = some n := by
  have hd : (digits n).all Char.isDigit = true :=
    List.all_eq_true.2 fun c hc => Nat.isDigit_of_mem_toDigits (by decide) (by decide) hc
  have hne : (digits n).isEmpty = false := List.isEmpty_eq_false_iff.2 Nat.toDigits_ne_nil
  have hv : Nat.ofDigitChars 10 (digits n) 0 = n := Nat.ofDigitChars_toDigits (by decide) (by decide)
  simp [digits?, hd, hne, hv]

/-- Digits alone are read without a sign. -/
theorem integer?_of_isDigit {cs : List Char} (h : ∀ c ∈ cs, c.isDigit = true) :
    integer? cs = (digits? cs).map Int.ofNat := by
  unfold integer?
  split
  · exact absurd (h '+' List.mem_cons_self) (by decide)
  · exact absurd (h '-' List.mem_cons_self) (by decide)
  · rfl

/-- The digits of an integer read as that integer. -/
theorem integer?_signedDigits (i : Int) : integer? (signedDigits i) = some i := by
  unfold signedDigits
  split
  · show (digits? (digits i.natAbs)).map (fun n => - Int.ofNat n) = some i
    rw [digits?_digits, Option.map_some, Option.some_inj]
    show - (i.natAbs : Int) = i
    omega
  · have hdigits : ∀ c ∈ digits i.natAbs, c.isDigit = true := fun _ hc =>
      Nat.isDigit_of_mem_toDigits (by decide) (by decide) hc
    rw [integer?_of_isDigit hdigits, digits?_digits, Option.map_some, Option.some_inj]
    show (i.natAbs : Int) = i
    omega

end Gatehouse.Text.Integer
