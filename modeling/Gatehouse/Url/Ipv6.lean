/-
IPv6 addresses: eight groups of up to four hexadecimal digits, where one `::` may stand for a run of
zero groups and an IPv4 address for the last two. They are written with the first of the longest
runs of at least two zero groups left out.
-/
import Gatehouse.Text.Basic
import Gatehouse.Text.Integer

namespace Gatehouse.Url

open Gatehouse.Text

/-! ## Reading -/

/-- A group of one to four digits. -/
def group? (cs : List Char) : Option Nat :=
  if 1 ≤ cs.length ∧ cs.length ≤ 4 then Hex.number? cs else none

/-- A number up to 255 without a needless leading zero. -/
def octet? (cs : List Char) : Option Nat :=
  match cs with
  | '0' :: _ :: _ => none
  | cs => (Integer.digits? cs).filter (· ≤ 255)

/-- The groups between colons, the last of which may be an IPv4 address. -/
def tailGroups? (cs : List Char) : Option (List Nat) := do
  let parts := cs.splitOn ':'
  let last ← parts.getLast?
  let leading ← parts.dropLast.mapM group?
  match last.splitOn '.' with
  | [_] => return leading ++ [← group? last]
  | [a, b, c, d] =>
    return leading ++ [256 * (← octet? a) + (← octet? b), 256 * (← octet? c) + (← octet? d)]
  | _ => none

/-- The groups between colons; none in an empty text. -/
def groups? (cs : List Char) : Option (List Nat) :=
  if cs.isEmpty then some [] else (cs.splitOn ':').mapM group?

/-- What stands before the first double colon, and what stands after it. -/
def splitDouble? : List Char → Option (List Char × List Char)
  | [] => none
  | ':' :: ':' :: r => some ([], r)
  | c :: r => (splitDouble? r).map fun (before, after) => (c :: before, after)

/-- The eight groups of an address. -/
def ipv6? (cs : List Char) : Option (List Nat) :=
  match splitDouble? cs with
  | none => (tailGroups? cs).filter (·.length = 8)
  | some (before, after) => do
    let front ← groups? before
    let back ← if after.isEmpty then some [] else tailGroups? after
    let known := front.length + back.length
    if known ≤ 7 then some (front ++ List.replicate (8 - known) 0 ++ back) else none

/-! ## Writing -/

/-- The length of the run of zeros at the front. -/
def zeroRun (groups : List Nat) : Nat := (groups.takeWhile (· == 0)).length

/-- Where the first of the longest runs of zeros begins, and its length. -/
def longestRun (groups : List Nat) : Nat × Nat :=
  (List.range groups.length).foldl (fun (start, length) i =>
    let run := zeroRun (groups.drop i)
    if run > length then (i, run) else (start, length)) (0, 0)

/-- The digits of a group, without leading zeros. -/
def writeGroup (n : Nat) : List Char := (Nat.toDigits 16 n)

/-- Groups with colons between them. -/
def writeGroups (groups : List Nat) : List Char := List.intercalate [':'] (groups.map writeGroup)

/-- An address, with its longest run of zero groups left out. -/
def writeIpv6 (groups : List Nat) : List Char :=
  let (start, length) := longestRun groups
  if length < 2 then writeGroups groups
  else writeGroups (groups.take start) ++ ':' :: ':' :: writeGroups (groups.drop (start + length))

end Gatehouse.Url
