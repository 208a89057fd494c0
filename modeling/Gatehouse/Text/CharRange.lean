/-
Sets of characters as ranges, and the way in which tables of characters are written: words between
blanks, in which a character stands as its number in hexadecimal digits, and a range as its first
and its last character with two dots between them.
-/
import Gatehouse.Text.Basic

namespace Gatehouse.Text

/-! ## Words -/

/-- The words of a text, between blanks. -/
def words (s : String) : List (List Char) :=
  (s.toList.splitOnP Char.isWhitespace).filter fun w => !w.isEmpty

/-- What stands before the first of a mark, and what stands after it. -/
def cutAt (mark : Char) (cs : List Char) : List Char × List Char :=
  (cs.takeWhile (· != mark), (cs.dropWhile (· != mark)).drop 1)

/-- The number that a word writes. -/
def numberOfWord (w : List Char) : Nat := (Hex.number? w).getD 0

/-- The character that a word writes. -/
def charOfWord (w : List Char) : Char := Char.ofNat (numberOfWord w)

/-! ## Ranges -/

/-- The characters from one to another, by their numbers. -/
structure CharRange where
  first : Nat
  last : Nat
  deriving DecidableEq, Repr

/-- The character is in the range. -/
def CharRange.contains (r : CharRange) (c : Char) : Bool := r.first ≤ c.toNat && c.toNat ≤ r.last

/-- The range that a word writes; a character alone is a range. -/
def CharRange.ofWord (w : List Char) : CharRange :=
  let (first, rest) := cutAt '.' w
  ⟨numberOfWord first, numberOfWord (if rest.isEmpty then first else rest.drop 1)⟩

/-- The ranges that a text lists. -/
def CharRange.ofText (s : String) : List CharRange := (words s).map CharRange.ofWord

/-- The character is in one of the ranges. -/
def inRanges (ranges : List CharRange) (c : Char) : Bool := ranges.any fun r => r.contains c

end Gatehouse.Text
