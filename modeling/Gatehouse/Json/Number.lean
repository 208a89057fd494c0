/-
Numbers as JSON spells them: an optional minus, digits without a needless leading zero, an
optional fraction and an optional exponent. A number without fraction and exponent that fits a
64-bit word is an integer; any other is a decimal, whose value matters only in one respect: it
must not exceed the range of binary floating point with 53 significant bits.
-/
import Gatehouse.Text.Integer

namespace Gatehouse.Json

open Gatehouse.Text

/-- The parts of a number's spelling; a run of digits holds each digit as a number below 10. -/
structure Numeral where
  negative : Bool
  whole : List Nat
  fraction : List Nat
  /-- The sign (`true` for a minus) and the digits of the exponent. -/
  exponent : Option (Bool × List Nat)
  deriving DecidableEq, Repr

/-- A digit's number. -/
def digit? (b : UInt8) : Option Nat := if 48 ≤ b ∧ b ≤ 57 then some (b.toNat - 48) else none

/-- The digits at the front of the bytes, and what follows them. -/
def readDigits : List UInt8 → List Nat × List UInt8
  | [] => ([], [])
  | b :: r =>
    match digit? b with
    | none => ([], b :: r)
    | some d => let (ds, rest) := readDigits r; (d :: ds, rest)

/-- The exponent at the front of the bytes, if an `e` of either case begins one. -/
def readExponent : List UInt8 → Option (Option (Bool × List Nat) × List UInt8)
  | [] => some (none, [])
  | e :: r =>
    if e = 101 ∨ e = 69 then
      let (negative, r) : Bool × List UInt8 :=
        match r with
        | 45 :: r => (true, r)
        | 43 :: r => (false, r)
        | r => (false, r)
      let (ds, rest) := readDigits r
      if ds.isEmpty then none else some (some (negative, ds), rest)
    else some (none, e :: r)

/-- The number at the front of the bytes, and what follows it. -/
def readNumeral (bs : List UInt8) : Option (Numeral × List UInt8) := do
  let (negative, bs) : Bool × List UInt8 :=
    match bs with
    | 45 :: r => (true, r)
    | bs => (false, bs)
  let (whole, bs) := readDigits bs
  if whole.isEmpty || (whole.head? == some 0 && whole.length != 1) then none
  else
    let (fraction, bs) ←
      match bs with
      | 46 :: r => let (ds, r) := readDigits r; if ds.isEmpty then none else some (ds, r)
      | bs => some ([], bs)
    let (exponent, bs) ← readExponent bs
    return (⟨negative, whole, fraction, exponent⟩, bs)

/-- The number that digits write. -/
def ofDigits (ds : List Nat) : Nat := ds.foldl (fun n d => 10 * n + d) 0

/-- The significand extended by digits for as long as it fits a 64-bit word, and the digits that
no longer did. -/
def accumulate (significand : Nat) : List Nat → Nat × List Nat
  | [] => (significand, [])
  | d :: ds =>
    if significand * 10 + d ≤ Integer.maxUnsigned then accumulate (significand * 10 + d) ds
    else (significand, d :: ds)

/-- The nearest number with at most 53 significant bits; a tie goes to the even one. -/
def round53 (n : Nat) : Nat :=
  if n < 1 <<< 53 then n
  else
    let k := n.log2 - 52
    let q := n >>> k
    let r := n % 1 <<< k
    let q := if 2 * r > 1 <<< k ∨ (2 * r = 1 <<< k ∧ q % 2 = 1) then q + 1 else q
    q <<< k

/-- The number does not exceed the largest binary floating-point number, when its significand and
its power of ten are rounded to 53 bits each before they are multiplied. -/
def Numeral.inRange (n : Numeral) : Bool :=
  let (significand, dropped) := accumulate 0 n.whole
  let (significand, rest) := accumulate significand n.fraction
  let kept := n.fraction.length - rest.length
  let given : Int :=
    match n.exponent with
    | none => 0
    | some (negative, ds) => if negative then - Int.ofNat (ofDigits ds) else Int.ofNat (ofDigits ds)
  let exponent : Int := Int.ofNat dropped.length - Int.ofNat kept + given
  if exponent ≤ 0 ∨ significand = 0 then true
  else if exponent > 308 then false
  else decide (round53 significand * round53 (Nat.pow 10 exponent.toNat) < 1 <<< 1024 - 1 <<< 970)

/-- The integer that the number is, if it has neither fraction nor exponent and fits a signed or
an unsigned 64-bit word. A negative zero is no integer. -/
def Numeral.integer? (n : Numeral) : Option Int :=
  if n.fraction.isEmpty && n.exponent.isNone then
    let v := ofDigits n.whole
    if n.negative then
      if v = 0 ∨ v > 0x8000000000000000 then none else some (- Int.ofNat v)
    else if v ≤ Integer.maxUnsigned then some (Int.ofNat v) else none
  else none

end Gatehouse.Json
