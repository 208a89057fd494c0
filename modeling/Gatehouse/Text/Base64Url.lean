/-
Base64 with the alphabet for URLs and file names and without padding. Three bytes are four
digits; one or two bytes left over are two or three digits whose spare bits are zero. Reading
accepts exactly what writing produces: no padding, no other alphabet, no spare bit set.
-/
namespace Gatehouse.Text.Base64Url

/-- The digit of a number below 64. -/
def digit (n : Nat) : Char :=
  if n < 26 then Char.ofNat (65 + n)
  else if n < 52 then Char.ofNat (71 + n)
  else if n < 62 then Char.ofNat (n - 4)
  else if n = 62 then '-' else '_'

/-- The number of a digit. -/
def value? (c : Char) : Option Nat :=
  if 'A' ≤ c ∧ c ≤ 'Z' then some (c.toNat - 65)
  else if 'a' ≤ c ∧ c ≤ 'z' then some (c.toNat - 71)
  else if '0' ≤ c ∧ c ≤ '9' then some (c.toNat + 4)
  else if c = '-' then some 62
  else if c = '_' then some 63
  else none

/-- The digits of the bytes. -/
def encode : List UInt8 → List Char
  | [] => []
  | [a] => [digit (a.toNat / 4), digit (a.toNat % 4 * 16)]
  | [a, b] => [digit (a.toNat / 4), digit (a.toNat % 4 * 16 + b.toNat / 16), digit (b.toNat % 16 * 4)]
  | a :: b :: c :: r =>
    digit (a.toNat / 4) :: digit (a.toNat % 4 * 16 + b.toNat / 16) ::
      digit (b.toNat % 16 * 4 + c.toNat / 64) :: digit (c.toNat % 64) :: encode r

/-- The bytes of the digits, if they are what `encode` writes. -/
def decode? : List Char → Option (List UInt8)
  | [] => some []
  | [_] => none
  | [p, q] => do
    let w ← value? p
    let x ← value? q
    if x % 16 = 0 then some [UInt8.ofNat (w * 4 + x / 16)] else none
  | [p, q, s] => do
    let w ← value? p
    let x ← value? q
    let y ← value? s
    if y % 4 = 0 then some [UInt8.ofNat (w * 4 + x / 16), UInt8.ofNat (x % 16 * 16 + y / 4)] else none
  | p :: q :: s :: t :: r => do
    let w ← value? p
    let x ← value? q
    let y ← value? s
    let z ← value? t
    let rest ← decode? r
    return UInt8.ofNat (w * 4 + x / 16) :: UInt8.ofNat (x % 16 * 16 + y / 4) ::
      UInt8.ofNat (y % 4 * 64 + z) :: rest

theorem value?_digit : ∀ n < 64, value? (digit n) = some n := by decide

end Gatehouse.Text.Base64Url
