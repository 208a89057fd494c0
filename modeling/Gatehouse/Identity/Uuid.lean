/-
Identifiers of 128 bits. They are written as 32 lower-case hexadecimal digits in five groups, and
read in either case, with or without the hyphens between the groups; with the hyphens they may stand
in braces or after `urn:uuid:`. What cannot be read is explained by the first fault.
-/
import Gatehouse.Text.Basic

namespace Gatehouse.Identity

open Gatehouse.Text

/-- An identifier of 128 bits. -/
structure Uuid where
  value : BitVec 128
  deriving DecidableEq, Repr

/-! ## Writing -/

/-- The number's last `width` hexadecimal digits. -/
def hexDigits : Nat → Nat → List Char
  | 0, _ => []
  | width + 1, n => hexDigits width (n / 16) ++ [Hex.lower (n % 16)]

/-- The digits in groups of 8, 4, 4, 4 and 12, with hyphens between them. -/
def hyphenate (digits : List Char) : List Char :=
  digits.take 8 ++ '-' :: (digits.drop 8).take 4 ++ '-' :: (digits.drop 12).take 4 ++
    '-' :: (digits.drop 16).take 4 ++ '-' :: digits.drop 20

/-- The identifier in lower case, with hyphens. -/
def Uuid.render (u : Uuid) : String := String.ofList (hyphenate (hexDigits 32 u.value.toNat))

/-! ## Reading -/

/-- Why a text is no identifier; positions count bytes from 0. -/
inductive UuidError where
  | length (found : Nat)
  | character (found : Char) (position : Nat)
  | groupCount (found : Nat)
  | groupLength (group expected found : Nat)
  deriving DecidableEq, Repr

/-- The message of a refused identifier. -/
def UuidError.message : UuidError → String
  | .length n => s!"invalid length: found {n}"
  | .character c i => s!"invalid character: found `" ++ c.toString ++ s!"` at {i}"
  | .groupCount n => s!"invalid group count: expected 5, found {n}"
  | .groupLength g e n => s!"invalid group length in group {g}: expected {e}, found {n}"

/-- How many bytes the characters take in UTF-8. -/
def byteLength (cs : List Char) : Nat := (utf8Bytes cs).length

/-- The mark of a name for an identifier. -/
def urnMark : List Char := "urn:uuid:".toList

/-- What stands between braces. -/
def inBraces? (cs : List Char) : Option (List Char) :=
  match cs with
  | '{' :: r => if r.getLast? = some '}' then some r.dropLast else none
  | _ => none

/-- What stands after the mark of a name, which may be in any case. -/
def afterUrn? (cs : List Char) : Option (List Char) :=
  if (cs.take urnMark.length).map Char.toLower = urnMark then some (cs.drop urnMark.length) else none

/-- The 36 bytes where the hyphenated form is sought: the whole text, or what is wrapped in it. -/
def hyphenatedPart? (cs : List Char) : Option (List Char) :=
  if byteLength cs = 36 then some cs
  else if byteLength cs = 38 then inBraces? cs
  else if byteLength cs = 45 then afterUrn? cs
  else none

/-- The digits of the hyphenated form. -/
def joinGroups? (cs : List Char) : Option (List Char) :=
  let groups := cs.splitOn '-'
  if groups.map List.length = [8, 4, 4, 4, 12] then some groups.flatten else none

/-- The 32 digits of an accepted spelling. -/
def uuidDigits? (cs : List Char) : Option (List Char) :=
  if byteLength cs = 32 then some cs else (hyphenatedPart? cs).bind joinGroups?

/-! ## Explaining -/

/-- The first character that is neither a digit nor a hyphen, and the bytes before it. -/
def strayCharacter? (position : Nat) : List Char → Option (Char × Nat)
  | [] => none
  | c :: cs =>
    if Hex.isDigit c || c == '-' then strayCharacter? (position + c.utf8Size) cs else some (c, position)

/-- The lengths of the first four groups of an identifier. -/
def groupLengths : List Nat := [8, 4, 4, 4]

/-- The first group whose length is wrong, with the length it should have; the last group has all
that is left of the whole input. -/
def wrongGroup (total : Nat) (groups : List (List Char)) : UuidError :=
  match (groupLengths.zip (groups.map List.length)).zipIdx.find? fun ((e, n), _) => e != n with
  | some ((e, n), g) => .groupLength g e n
  | none => .groupLength 4 12 (total - 24)

/-- What is wrong with a part of the input whose characters come after `offset` bytes; a part that
is not `wrapped` may have been meant without hyphens. -/
def explainPart (total offset : Nat) (wrapped : Bool) (part : List Char) : UuidError :=
  match strayCharacter? offset part with
  | some (c, i) => .character c i
  | none =>
    let groups := part.splitOn '-'
    if groups.length = 1 && !wrapped then .length total
    else if groups.length ≠ 5 then .groupCount groups.length
    else wrongGroup total groups

/-- What is wrong with a text that is no identifier. -/
def explain (cs : List Char) : UuidError :=
  let total := byteLength cs
  if total = 0 ∨ total > 45 then .length total
  else match hyphenatedPart? cs with
    | some part => explainPart total 0 true part
    | none =>
      match inBraces? cs with
      | some part => explainPart total 1 true part
      | none =>
        match afterUrn? cs with
        | some part => explainPart total urnMark.length true part
        | none => explainPart total 0 false cs

/-- The identifier that a text spells. -/
def Uuid.parse (s : String) : Except UuidError Uuid :=
  match (uuidDigits? s.toList).bind Hex.number? with
  | some n => .ok ⟨BitVec.ofNat 128 n⟩
  | none => .error (explain s.toList)

end Gatehouse.Identity
