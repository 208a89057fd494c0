/-
Domain names in ASCII. The characters of a name are mapped and composed first; a label that is then
not ASCII is written in Punycode after `xn--`. A label that comes in that form must stand for one
that would be written so, and what holds of labels holds of what it stands for.
-/
import Gatehouse.Text.Composition
import Gatehouse.Url.Domain.Direction
import Gatehouse.Url.Domain.Joiner
import Gatehouse.Url.Domain.Mapping
import Gatehouse.Url.Punycode

namespace Gatehouse.Url

open Gatehouse.Text

/-- A character that no host may hold. -/
def isForbidden (c : Char) : Bool :=
  c.toNat ≤ 32 || c.toNat = 127 || "#/:<>?@[\\]^|%".toList.contains c

/-- The characters of a name, mapped and composed. -/
def foldName? (name : List Char) : Option (List Char) :=
  (name.mapM mapped?).map fun targets => canonical targets.flatten

/-! ## Labels -/

/-- What an ASCII label begins with when it stands for another. -/
def aceMark : List Char := "xn--".toList

/-- The greatest length of a label that is written in Punycode. -/
def maxLabelLength : Nat := 1000

/-- The greatest length of the Punycode of a label. -/
def maxPunycodeLength : Nat := 2000

/-- An ASCII label. -/
def isAscii (label : List Char) : Bool := label.all (·.toNat < 0x80)

/-- A label whose characters may follow each other as they do. -/
def isSound (label : List Char) : Bool :=
  isAscii label ||
    (!label.head?.any isMark && joinersFit [] label && label.length ≤ maxLabelLength)

/-- The label that Punycode stands for, if it is one that would be written so. -/
def labelOfPunycode? (cs : List Char) : Option (List Char) :=
  if isAscii cs && cs.length ≤ maxPunycodeLength then
    (Punycode.decode? cs).filter fun label =>
      !isAscii label && foldName? label == some label && Punycode.encode label == cs
  else none

/-- The label that a folded label stands for. -/
def label? (folded : List Char) : Option (List Char) :=
  (if aceMark.isPrefixOf folded then labelOfPunycode? (folded.drop aceMark.length)
    else some folded).filter isSound

/-- The ASCII form of a label. -/
def labelToAscii (label : List Char) : List Char :=
  if isAscii label then label else aceMark ++ Punycode.encode label

/-! ## Names -/

/-- The ASCII form of a name. -/
def domainToAscii? (name : List Char) : Option (List Char) := do
  let labels ← ((← foldName? name).splitOn '.').mapM label?
  let ascii := List.intercalate ['.'] (labels.map labelToAscii)
  if directionsAgree labels && !ascii.any isForbidden then some ascii else none

end Gatehouse.Url
