/-
Texts at large: the blanks that count for nothing, hexadecimal digits, UTF-8 and percent escapes.
White space is as Unicode's `White_Space` property has it. Each number below 16 has a lower-case and an
upper-case digit. Only well-formed UTF-8 is read as a text, so the bytes of a text read back as that text;
percent escapes write the bytes that are not kept as `%XX`, and a sign without two digits stands for itself.
-/
namespace Gatehouse.Text

/-! ## The blank characters -/

/-- The code points with the property `White_Space`. -/
def blankCodePoints : List Nat :=
  [0x9, 0xA, 0xB, 0xC, 0xD, 0x20, 0x85, 0xA0, 0x1680,
   0x2000, 0x2001, 0x2002, 0x2003, 0x2004, 0x2005, 0x2006, 0x2007, 0x2008, 0x2009, 0x200A,
   0x2028, 0x2029, 0x202F, 0x205F, 0x3000]

/-- A character of the property `White_Space`. -/
def isBlank (c : Char) : Bool := blankCodePoints.contains c.toNat

/-! ## Stripping -/

/-- The characters without the blanks at both ends. -/
def strip (cs : List Char) : List Char :=
  ((cs.dropWhile isBlank).reverse.dropWhile isBlank).reverse

/-- The text without the blanks at both ends. -/
def trim (s : String) : String := String.ofList (strip s.toList)

/-- A text of blanks only, the empty one among them. -/
def isBlankText (s : String) : Bool := s.toList.all isBlank

/-- The trimmed text, unless it is empty. -/
def nonBlank? (s : String) : Option String :=
  let t := strip s.toList
  if t.isEmpty then none else some (String.ofList t)

/-- An optional text, trimmed; a blank one counts as absent. -/
def presentText? (s : Option String) : Option String := s.bind nonBlank?

/-! ## Hexadecimal digits -/

namespace Hex

/-- The lower-case digit of a number below 16. -/
def lower (n : Nat) : Char := if n < 10 then Char.ofNat (48 + n) else Char.ofNat (87 + n)

/-- The upper-case digit of a number below 16. -/
def upper (n : Nat) : Char := if n < 10 then Char.ofNat (48 + n) else Char.ofNat (55 + n)

/-- The number of a digit, of either case. -/
def value? (c : Char) : Option Nat :=
  if '0' ≤ c ∧ c ≤ '9' then some (c.toNat - 48)
  else if 'a' ≤ c ∧ c ≤ 'f' then some (c.toNat - 87)
  else if 'A' ≤ c ∧ c ≤ 'F' then some (c.toNat - 55)
  else none

/-- A hexadecimal digit of either case. -/
def isDigit (c : Char) : Bool := (value? c).isSome

/-- The number that a run of digits writes, if all are digits; the empty run writes 0. -/
def number? (cs : List Char) : Option Nat :=
  cs.foldl (fun acc c => do return 16 * (← acc) + (← value? c)) (some 0)

theorem value?_lower : ∀ n < 16, value? (lower n) = some n := by decide

theorem value?_upper : ∀ n < 16, value? (upper n) = some n := by decide

end Hex

/-! ## UTF-8 -/

/-- The UTF-8 bytes of a list of characters. -/
def utf8Bytes (cs : List Char) : List UInt8 := cs.flatMap String.utf8EncodeChar

/-- The UTF-8 bytes of a text. -/
def bytesOf (s : String) : List UInt8 := utf8Bytes s.toList

/-- The text that the bytes spell in UTF-8, if they are well formed. -/
def ofBytes? (bs : List UInt8) : Option String := String.fromUTF8? bs.toByteArray

/-- A text of bytes below 128, one character a byte. -/
def asciiOf (bs : List UInt8) : String := String.ofList (bs.map fun b => Char.ofNat b.toNat)

@[simp] theorem utf8Bytes_append (a b : List Char) : utf8Bytes (a ++ b) = utf8Bytes a ++ utf8Bytes b := by
  simp [utf8Bytes]

@[simp] theorem utf8Bytes_cons (c : Char) (cs : List Char) :
    utf8Bytes (c :: cs) = String.utf8EncodeChar c ++ utf8Bytes cs := by
  simp [utf8Bytes]

/-- The bytes of a text read back as that text. -/
theorem ofBytes?_bytesOf (s : String) : ofBytes? (bytesOf s) = some s := by
  have h : (bytesOf s).toByteArray = s.toByteArray := String.utf8Encode_toList
  unfold ofBytes?
  rw [h]
  simp only [String.fromUTF8?, s.isValidUTF8, dite_true]
  rfl

/-! ## Percent escapes -/

namespace Percent

/-- Letters, digits and `-._~`: the characters that are never escaped. -/
def isUnreserved (c : Char) : Bool := c.isAlphanum || c == '-' || c == '.' || c == '_' || c == '~'

/-- The escape of a byte, with upper-case digits. -/
def escape (b : UInt8) : List Char := ['%', Hex.upper (b.toNat / 16), Hex.upper (b.toNat % 16)]

/-- The characters of `cs`, those that `keep` refuses written as the escapes of their bytes. -/
def encodeWith (keep : Char → Bool) (cs : List Char) : List Char :=
  cs.flatMap fun c => if keep c then [c] else (String.utf8EncodeChar c).flatMap escape

/-- The characters of `cs`, every byte of a reserved one escaped. -/
def encode (cs : List Char) : List Char := encodeWith isUnreserved cs

/-- The bytes that the characters stand for; a percent sign without two digits stands for itself. -/
def decode : List Char → List UInt8
  | [] => []
  | '%' :: a :: b :: r =>
    match Hex.value? a, Hex.value? b with
    | some x, some y => UInt8.ofNat (16 * x + y) :: decode r
    | _, _ => String.utf8EncodeChar '%' ++ decode (a :: b :: r)
  | c :: r => String.utf8EncodeChar c ++ decode r

/-- The text that the characters stand for, if the bytes are UTF-8. -/
def decodeText? (cs : List Char) : Option String := ofBytes? (decode cs)

end Percent

end Gatehouse.Text
