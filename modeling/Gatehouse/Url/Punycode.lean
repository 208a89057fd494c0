/-
Punycode: the code points of a label written in letters, digits and hyphens. ASCII characters come
first; each other one is an insertion into the text so far, written as a number in a base of 36
whose digits adapt to the size of the numbers before.
-/
namespace Gatehouse.Url.Punycode

/-- The digit of a number below 36. -/
def digit (n : Nat) : Char := if n < 26 then Char.ofNat (97 + n) else Char.ofNat (22 + n)

/-- The number of a digit in lower case. -/
def value? (c : Char) : Option Nat :=
  if 'a' ≤ c ∧ c ≤ 'z' then some (c.toNat - 97)
  else if '0' ≤ c ∧ c ≤ '9' then some (c.toNat - 22)
  else none

/-- How many steps of 36 bring a number down into the range of the last digit, and what is left. -/
def reduce : Nat → Nat → Nat → Nat × Nat
  | 0, delta, k => (delta, k)
  | fuel + 1, delta, k => if delta > 455 then reduce fuel (delta / 35) (k + 36) else (delta, k)

/-- The bias after a number has been written, when the text has `count` characters. -/
def adapt (delta count : Nat) (first : Bool) : Nat :=
  let delta := if first then delta / 700 else delta / 2
  let delta := delta + delta / count
  let (delta, k) := reduce delta delta 0
  k + 36 * delta / (delta + 38)

/-- The threshold at a place. -/
def threshold (k bias : Nat) : Nat := if k ≤ bias then 1 else if k ≥ bias + 26 then 26 else k - bias

/-- The digits of a number from a place on. -/
def writeNumber : Nat → Nat → Nat → Nat → List Char
  | 0, _, _, _ => []
  | fuel + 1, q, k, bias =>
    let t := threshold k bias
    if q < t then [digit q]
    else digit (t + (q - t) % (36 - t)) :: writeNumber fuel ((q - t) / (36 - t)) (k + 36) bias

/-- What the encoder carries from character to character. -/
structure Progress where
  delta : Nat
  bias : Nat
  written : Nat
  output : List Char

/-- One character of the label, while the insertions of the code point `n` are written. -/
def encodeChar (basic n : Nat) (p : Progress) (c : Char) : Progress :=
  if c.toNat < n then { p with delta := p.delta + 1 }
  else if c.toNat = n then
    { delta := 0
      bias := adapt p.delta (p.written + 1) (p.written == basic)
      written := p.written + 1
      output := p.output ++ writeNumber (p.delta + 1) p.delta 36 p.bias }
  else p

/-- The code points above ASCII in a label, each once, in order. -/
def extended (label : List Char) : List Nat :=
  ((label.filter (·.toNat ≥ 0x80)).map Char.toNat).eraseDups.mergeSort

/-- The Punycode of a label. -/
def encode (label : List Char) : List Char :=
  let ascii := label.filter (·.toNat < 0x80)
  let basic := ascii.length
  let start : Progress :=
    ⟨0, 72, basic, if ascii.isEmpty then [] else ascii ++ ['-']⟩
  let (progress, _) := (extended label).foldl (fun ((p : Progress), last) n =>
    let p := { p with delta := p.delta + (n - last) * (p.written + 1) }
    let p := label.foldl (encodeChar basic n) p
    ({ p with delta := p.delta + 1 }, n + 1)) (start, 0x80)
  progress.output

/-- The number at the front of the digits from a place on, and what follows it. -/
def readNumber : List Char → Nat → Nat → Nat → Nat → Option (Nat × List Char)
  | [], _, _, _, _ => none
  | c :: r, i, weight, k, bias => do
    let d ← value? c
    let t := threshold k bias
    let i := i + d * weight
    if d < t then some (i, r) else readNumber r i (weight * (36 - t)) (k + 36) bias

/-- The insertions that digits write, into the text so far. -/
def decodeFrom : Nat → List Char → List Char → Nat → Nat → Nat → Bool → Option (List Char)
  | _, [], output, _, _, _, _ => some output
  | 0, _, _, _, _, _, _ => none
  | fuel + 1, cs, output, n, i, bias, first => do
    let (next, rest) ← readNumber cs i 1 36 bias
    let count := output.length + 1
    let n := n + next / count
    let at_ := next % count
    if n.isValidChar then
      decodeFrom fuel rest (output.take at_ ++ Char.ofNat n :: output.drop at_) n (at_ + 1)
        (adapt (next - i) count first) false
    else none

/-- The label that Punycode in lower case stands for. -/
def decode? (cs : List Char) : Option (List Char) :=
  let tail := (cs.reverse.takeWhile (· != '-')).reverse
  let ascii := (cs.take (cs.length - tail.length)).dropLast
  if ascii.all (·.toNat < 0x80) then decodeFrom (cs.length + 1) tail ascii 0x80 0 72 true else none

end Gatehouse.Url.Punycode
