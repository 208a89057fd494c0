/-
JSON as it is read: the shape of a text, with the parts that spell no value marked as such. A text
may be well formed and still hold a string that is no Unicode text or a number that is too large;
those are `unreadable`, and it depends on the reader of a record whether that matters.
-/
import Gatehouse.Json.Number
import Gatehouse.Text.Basic

namespace Gatehouse.Json

open Gatehouse.Text

/-- The shape of a JSON text. -/
inductive Syntax where
  | null
  | bool (b : Bool)
  | integer (i : Int)
  | decimal
  | text (s : String)
  | unreadable
  | list (items : List Syntax)
  | object (members : List (Option String × Syntax))

/-! ## Strings -/

/-- An item between the quotes: a byte, or the UTF-16 unit of an escape. -/
inductive Piece where
  | byte (b : UInt8)
  | unit (n : Nat)
  deriving DecidableEq, Repr

/-- The byte that a short escape stands for. -/
def shortEscape? (b : UInt8) : Option UInt8 :=
  if b = 34 ∨ b = 92 ∨ b = 47 then some b
  else if b = 98 then some 8
  else if b = 102 then some 12
  else if b = 110 then some 10
  else if b = 114 then some 13
  else if b = 116 then some 9
  else none

/-- The number of a hexadecimal digit. -/
def hexByte? (b : UInt8) : Option Nat := Hex.value? (Char.ofNat b.toNat)

/-- The items up to the closing quote, and what follows it. Control characters must be escaped. -/
def readPieces : List UInt8 → Option (List Piece × List UInt8)
  | [] => none
  | 34 :: r => some ([], r)
  | 92 :: 117 :: a :: b :: c :: d :: r => do
    let n := 4096 * (← hexByte? a) + 256 * (← hexByte? b) + 16 * (← hexByte? c) + (← hexByte? d)
    let (ps, rest) ← readPieces r
    return (.unit n :: ps, rest)
  | 92 :: e :: r => do
    let b ← shortEscape? e
    let (ps, rest) ← readPieces r
    return (.byte b :: ps, rest)
  | b :: r =>
    if b < 32 ∨ b = 92 then none
    else do
      let (ps, rest) ← readPieces r
      return (.byte b :: ps, rest)

/-- A UTF-16 unit that opens a pair. -/
def isHighUnit (n : Nat) : Bool := 0xD800 ≤ n && n ≤ 0xDBFF

/-- A UTF-16 unit that closes a pair. -/
def isLowUnit (n : Nat) : Bool := 0xDC00 ≤ n && n ≤ 0xDFFF

/-- The bytes that the items spell; each unit of a pair needs the other beside it. -/
def pieceBytes? : List Piece → Option (List UInt8)
  | [] => some []
  | .byte b :: ps => (pieceBytes? ps).map (b :: ·)
  | .unit hi :: .unit lo :: ps =>
    if isHighUnit hi then
      if isLowUnit lo then
        (pieceBytes? ps).map
          (String.utf8EncodeChar (Char.ofNat (0x10000 + (hi - 0xD800) * 0x400 + (lo - 0xDC00))) ++ ·)
      else none
    else if isLowUnit hi then none
    else (pieceBytes? (.unit lo :: ps)).map (String.utf8EncodeChar (Char.ofNat hi) ++ ·)
  | .unit n :: ps =>
    if isHighUnit n || isLowUnit n then none
    else (pieceBytes? ps).map (String.utf8EncodeChar (Char.ofNat n) ++ ·)

/-- The text that the items spell, if they spell one. -/
def pieceText? (ps : List Piece) : Option String := (pieceBytes? ps).bind ofBytes?

/-! ## Values -/

/-- The blanks that JSON allows between its tokens. -/
def isSpace (b : UInt8) : Bool := b = 32 || b = 9 || b = 10 || b = 13

/-- The bytes after the blanks at their front. -/
def skipSpace (bs : List UInt8) : List UInt8 := bs.dropWhile isSpace

/-- What follows a word at the front of the bytes. -/
def afterWord? (word : String) (bs : List UInt8) : Option (List UInt8) :=
  if (bytesOf word).isPrefixOf bs then some (bs.drop word.utf8ByteSize) else none

/-- The shape of a number. -/
def Numeral.shape (n : Numeral) : Syntax :=
  match n.integer? with
  | some i => .integer i
  | none => if n.inRange then .decimal else .unreadable

/-- The shape of a string. -/
def pieceShape (ps : List Piece) : Syntax :=
  match pieceText? ps with
  | some s => .text s
  | none => .unreadable

mutual

/-- The value at the front of the bytes, and what follows it. -/
def readValue : Nat → List UInt8 → Option (Syntax × List UInt8)
  | 0, _ => none
  | fuel + 1, bs =>
    match skipSpace bs with
    | [] => none
    | 34 :: r => (readPieces r).map fun (ps, rest) => (pieceShape ps, rest)
    | 91 :: r =>
      match skipSpace r with
      | 93 :: rest => some (.list [], rest)
      | r => (readItems fuel r).map fun (vs, rest) => (.list vs, rest)
    | 123 :: r =>
      match skipSpace r with
      | 125 :: rest => some (.object [], rest)
      | r => (readMembers fuel r).map fun (ms, rest) => (.object ms, rest)
    | 110 :: r => (afterWord? "ull" r).map (.null, ·)
    | 116 :: r => (afterWord? "rue" r).map (.bool true, ·)
    | 102 :: r => (afterWord? "alse" r).map (.bool false, ·)
    | bs => (readNumeral bs).map fun (n, rest) => (n.shape, rest)

/-- The items of a list up to its closing bracket, and what follows that. -/
def readItems : Nat → List UInt8 → Option (List Syntax × List UInt8)
  | 0, _ => none
  | fuel + 1, bs => do
    let (v, r) ← readValue fuel bs
    match skipSpace r with
    | 44 :: r =>
      let (vs, rest) ← readItems fuel r
      return (v :: vs, rest)
    | 93 :: rest => return ([v], rest)
    | _ => none

/-- The members of an object up to its closing brace, and what follows that. -/
def readMembers : Nat → List UInt8 → Option (List (Option String × Syntax) × List UInt8)
  | 0, _ => none
  | fuel + 1, bs =>
    match skipSpace bs with
    | 34 :: r => do
      let (key, r) ← readPieces r
      match skipSpace r with
      | 58 :: r =>
        let (v, r) ← readValue fuel r
        match skipSpace r with
        | 44 :: r =>
          let (ms, rest) ← readMembers fuel r
          return ((pieceText? key, v) :: ms, rest)
        | 125 :: rest => return ([(pieceText? key, v)], rest)
        | _ => none
      | _ => none
    | _ => none

end

/-- The value at the front of the bytes, and what follows it. Each step takes a byte or opens a
value, so twice the length bounds the steps. -/
def Syntax.readFront (bs : List UInt8) : Option (Syntax × List UInt8) :=
  readValue (2 * bs.length + 2) bs

/-- The value that the bytes spell, with nothing but blanks around it. -/
def Syntax.read (bs : List UInt8) : Option Syntax :=
  match Syntax.readFront bs with
  | some (v, rest) => if rest.all isSpace then some v else none
  | none => none

/-! ## Readable values -/

mutual

/-- Every part of the value can be read, and it is nested no deeper than the bound. -/
def Syntax.isReadable : Nat → Syntax → Bool
  | _, .unreadable => false
  | 0, .list _ => false
  | depth + 1, .list items => areReadable depth items
  | 0, .object _ => false
  | depth + 1, .object members => membersReadable depth members
  | _, .null => true
  | _, .bool _ => true
  | _, .integer _ => true
  | _, .decimal => true
  | _, .text _ => true

/-- Every item can be read. -/
def areReadable : Nat → List Syntax → Bool
  | _, [] => true
  | depth, v :: vs => v.isReadable depth && areReadable depth vs

/-- Every member can be read, its key included. -/
def membersReadable : Nat → List (Option String × Syntax) → Bool
  | _, [] => true
  | depth, (k, v) :: ms => k.isSome && v.isReadable depth && membersReadable depth ms

end

/-- How deep a value that is kept whole may be nested. -/
def maxDepth : Nat := 127

end Gatehouse.Json
