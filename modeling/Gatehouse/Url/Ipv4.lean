/-
IPv4 addresses in the loose spelling of URLs: one to four numbers parted by dots, each decimal,
octal after `0` or hexadecimal after `0x`; the last fills all bytes that are left. A host whose last
part is such a number is an address or an error, never a name.
-/
import Gatehouse.Text.Basic
import Gatehouse.Text.Integer

namespace Gatehouse.Url

open Gatehouse.Text

/-- The number of digits in a base, if each is one. -/
def numberIn? (base : Nat) (cs : List Char) : Option Nat :=
  cs.foldl (fun acc c => do
    let n ← acc
    let d ← Hex.value? c
    if d < base then some (base * n + d) else none) (some 0)

/-- The number that a part of an address writes. -/
def ipv4Number? (cs : List Char) : Option Nat :=
  match cs with
  | [] => none
  | '0' :: 'x' :: r => numberIn? 16 r
  | '0' :: 'X' :: r => numberIn? 16 r
  | '0' :: d :: r => numberIn? 8 (d :: r)
  | cs => numberIn? 10 cs

/-- The parts between the dots; an empty one at the end does not count. -/
def ipv4Parts (cs : List Char) : List (List Char) :=
  let parts := cs.splitOn '.'
  if parts.length > 1 ∧ parts.getLast? = some [] then parts.dropLast else parts

/-- The last part is a number, or has nothing but digits. -/
def endsInNumber (cs : List Char) : Bool :=
  match (ipv4Parts cs).getLast? with
  | none => false
  | some last => (!last.isEmpty && last.all Char.isDigit) || (ipv4Number? last).isSome

/-- The address that a host spells. -/
def ipv4? (cs : List Char) : Option Nat := do
  let numbers ← (ipv4Parts cs).mapM ipv4Number?
  let last ← numbers.getLast?
  let leading := numbers.dropLast
  if numbers.length ≤ 4 ∧ leading.all (· ≤ 255) ∧ last < Nat.pow 256 (4 - leading.length) then
    some (leading.zipIdx.foldl (fun acc (n, i) => acc + n * Nat.pow 256 (3 - i)) last)
  else none

/-- The four numbers of an address with dots between them. -/
def writeIpv4 (address : Nat) : List Char :=
  List.intercalate ['.']
    ([address / 0x1000000, address / 0x10000 % 256, address / 256 % 256, address % 256].map Integer.digits)

end Gatehouse.Url
