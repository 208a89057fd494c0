/-
JSON that is written is read as the same value: every text, every whole number of a 64-bit word and
every nesting of lists and objects. Reading stops where the value ends, so values may follow one
another.
-/
import Gatehouse.Proofs.Json.Number
import Gatehouse.Proofs.Json.Text

namespace Gatehouse.Json

open Gatehouse.Text

/-! ## The shape of a value -/

mutual

/-- The shape that a written value is read as. -/
def Value.shape : Value → Syntax
  | .null => .null
  | .bool b => .bool b
  | .integer i => .integer i
  | .text s => .text s
  | .list items => .list (shapeItems items)
  | .object members => .object (shapeMembers members)

/-- The shapes of items. -/
def shapeItems : List Value → List Syntax
  | [] => []
  | v :: vs => v.shape :: shapeItems vs

/-- The shapes of members, whose keys can all be read. -/
def shapeMembers : List (String × Value) → List (Option String × Syntax)
  | [] => []
  | (k, v) :: ms => (some k, v.shape) :: shapeMembers ms

end

mutual

/-- Every number of the value fits a 64-bit word. -/
def Value.Fits : Value → Prop
  | .null => True
  | .bool _ => True
  | .integer i => fitsWord i
  | .text _ => True
  | .list items => ItemsFit items
  | .object members => MembersFit members

/-- Every number of the items fits a 64-bit word. -/
def ItemsFit : List Value → Prop
  | [] => True
  | v :: vs => v.Fits ∧ ItemsFit vs

/-- Every number of the members fits a 64-bit word. -/
def MembersFit : List (String × Value) → Prop
  | [] => True
  | (_, v) :: ms => v.Fits ∧ MembersFit ms

end

/-! ## The first byte -/

theorem skipSpace_cons {b : UInt8} (h : isSpace b = false) (r : List UInt8) : skipSpace (b :: r) = b :: r := by
  rw [skipSpace, List.dropWhile_cons_of_neg (by simp [h])]

/-- The first byte of a number. -/
def startsNumber (b : UInt8) : Bool := b == 45 || (digit? b).isSome

theorem startsNumber_signedDigits (i : Int) : ∃ (b : UInt8) (r : List UInt8), startsNumber b = true ∧
    utf8Bytes (Integer.signedDigits i) = b :: r := by
  unfold Integer.signedDigits
  split
  · exact ⟨45, _, rfl, by rw [utf8Bytes_cons]; rfl⟩
  · obtain ⟨c, r, hc, h⟩ := utf8Bytes_digits i.natAbs
    exact ⟨_, r, by simp [startsNumber, digit?_of_isDigit hc], h⟩

/-- The bytes that begin no number, but something else or nothing. -/
theorem startsNumber_ne {b : UInt8} (h : startsNumber b = true) :
    isSpace b = false ∧ b ≠ 34 ∧ b ≠ 91 ∧ b ≠ 93 ∧ b ≠ 110 ∧ b ≠ 116 ∧ b ≠ 102 ∧ b ≠ 123 := by
  have key : ∀ n < 256, startsNumber (UInt8.ofNat n) = true → isSpace (UInt8.ofNat n) = false ∧
      UInt8.ofNat n ≠ 34 ∧ UInt8.ofNat n ≠ 91 ∧ UInt8.ofNat n ≠ 93 ∧ UInt8.ofNat n ≠ 110 ∧
      UInt8.ofNat n ≠ 116 ∧ UInt8.ofNat n ≠ 102 ∧ UInt8.ofNat n ≠ 123 := by decide +kernel
  have := key b.toNat b.toNat_lt
  rw [UInt8.ofNat_toNat] at this
  exact this h

theorem write_head (v : Value) :
    ∃ (b : UInt8) (r : List UInt8), utf8Bytes v.write = b :: r ∧ isSpace b = false ∧ b ≠ 93 := by
  cases v with
  | null => exact ⟨110, _, rfl, rfl, by decide⟩
  | bool b => cases b with
    | true => exact ⟨116, _, rfl, rfl, by decide⟩
    | false => exact ⟨102, _, rfl, rfl, by decide⟩
  | integer i =>
    obtain ⟨b, r, hb, h⟩ := startsNumber_signedDigits i
    have hne := startsNumber_ne hb
    exact ⟨b, r, by rw [Value.write]; exact h, hne.1, hne.2.2.2.1⟩
  | text s => exact ⟨34, _, by rw [Value.write]; exact utf8Bytes_writeText s, rfl, by decide⟩
  | list items => exact ⟨91, _, by rw [Value.write, List.cons_append, utf8Bytes_cons]; rfl, rfl, by decide⟩
  | object members => exact ⟨123, _, by rw [Value.write, List.cons_append, utf8Bytes_cons]; rfl, rfl, by decide⟩

theorem length_write_pos (v : Value) : 0 < v.write.length := by
  obtain ⟨b, r, h, -⟩ := write_head v
  rcases hw : v.write with _ | ⟨c, cs⟩
  · rw [hw] at h; cases h
  · exact Nat.succ_pos _

/-! ## One value -/

theorem readValue_text (fuel : Nat) (s : String) (rest : List UInt8) :
    readValue (fuel + 1) (utf8Bytes (writeText s) ++ rest) = some (.text s, rest) := by
  rw [utf8Bytes_writeText, List.cons_append, List.append_assoc, readValue, skipSpace_cons rfl]
  simp only [List.singleton_append, readPieces_writeText, Option.map_some, pieceShape_flatMap]

theorem readValue_number (fuel : Nat) (i : Int) (hi : fitsWord i) {rest : List UInt8} (h : EndsNumber rest) :
    readValue (fuel + 1) (utf8Bytes (Integer.signedDigits i) ++ rest) = some (.integer i, rest) := by
  have hread := readNumeral_signedDigits i h
  obtain ⟨b, r, hb, hbytes⟩ := startsNumber_signedDigits i
  obtain ⟨hs, h34, h91, -, h110, h116, h102, h123⟩ := startsNumber_ne hb
  rw [hbytes, List.cons_append] at hread ⊢
  rw [readValue, skipSpace_cons hs]
  split <;> rename_i heq
  case h_1 => cases heq
  case h_8 =>
    rw [hread]
    simp only [Option.map_some, shape_numeralOf hi]
  all_goals injection heq with h1 _; exact absurd h1 ‹_›

/-! ## Values and what follows them -/

theorem endsNumber_comma (r : List UInt8) : EndsNumber (44 :: r) := endsNumber_cons (by decide)

theorem endsNumber_bracket (r : List UInt8) : EndsNumber (93 :: r) := endsNumber_cons (by decide)

theorem endsNumber_brace (r : List UInt8) : EndsNumber (125 :: r) := endsNumber_cons (by decide)

theorem utf8Bytes_writeItems (v : Value) (vs : List Value) (rest : List UInt8) :
    utf8Bytes (writeItems (v :: vs)) ++ 93 :: rest = utf8Bytes v.write ++
      (if vs = [] then 93 :: rest else 44 :: (utf8Bytes (writeItems vs) ++ 93 :: rest)) := by
  rw [writeItems, utf8Bytes_append, List.append_assoc]
  cases vs with
  | nil => rfl
  | cons w ws => rw [List.isEmpty_cons, if_neg (by decide), if_neg (by simp), utf8Bytes_cons]; rfl

theorem utf8Bytes_writeMembers (k : String) (v : Value) (ms : List (String × Value)) (rest : List UInt8) :
    utf8Bytes (writeMembers ((k, v) :: ms)) ++ 125 :: rest =
      34 :: (utf8Bytes (k.toList.flatMap escapeChar) ++ 34 :: 58 :: (utf8Bytes v.write ++
        (if ms = [] then 125 :: rest else 44 :: (utf8Bytes (writeMembers ms) ++ 125 :: rest)))) := by
  rw [writeMembers]
  simp only [utf8Bytes_append, utf8Bytes_cons, utf8Bytes_writeText, List.append_assoc, List.cons_append,
    List.nil_append, show String.utf8EncodeChar ':' = [58] from rfl]
  cases ms with
  | nil => rfl
  | cons m ms => rw [List.isEmpty_cons, if_neg (by decide), if_neg (by simp), utf8Bytes_cons]; rfl

theorem readValue_list (fuel : Nat) {b : UInt8} (hs : isSpace b = false) (hb : b ≠ 93) (r : List UInt8) :
    readValue (fuel + 1) (91 :: b :: r) = (readItems fuel (b :: r)).map fun p => (.list p.1, p.2) := by
  rw [readValue, skipSpace_cons rfl]
  simp only [skipSpace_cons hs]
  split
  · rename_i heq; injection heq with h1 _; exact absurd h1 hb
  · rfl

theorem readValue_object (fuel : Nat) (r : List UInt8) :
    readValue (fuel + 1) (123 :: 34 :: r) = (readMembers fuel (34 :: r)).map fun p => (.object p.1, p.2) := by
  rw [readValue, skipSpace_cons rfl]
  simp only [skipSpace_cons (show isSpace 34 = false from rfl)]
  rfl

mutual

/-- `readValue` reads a written value as its `shape`, and stops where the value ends. -/
theorem readValue_write : ∀ (v : Value) (fuel : Nat) (rest : List UInt8), v.Fits → v.write.length ≤ fuel →
    EndsNumber rest → readValue fuel (utf8Bytes v.write ++ rest) = some (v.shape, rest)
  | v, 0, rest, _, hf, _ => by
    have := length_write_pos v
    omega
  | .null, fuel + 1, rest, _, _, _ => by
    rfl
  | .bool true, fuel + 1, rest, _, _, _ => by
    rfl
  | .bool false, fuel + 1, rest, _, _, _ => by
    rfl
  | .integer i, fuel + 1, rest, hv, _, hr => by
    rw [Value.write, Value.shape]
    exact readValue_number fuel i hv hr
  | .text s, fuel + 1, rest, _, _, _ => by
    rw [Value.write, Value.shape]
    exact readValue_text fuel s rest
  | .list [], fuel + 1, rest, _, _, _ => by
    rfl
  | .list (v :: vs), fuel + 1, rest, hv, hf, _ => by
    have hbytes : utf8Bytes (Value.list (v :: vs)).write ++ rest =
        91 :: (utf8Bytes (writeItems (v :: vs)) ++ 93 :: rest) := by
      rw [Value.write, List.cons_append, utf8Bytes_cons, utf8Bytes_append, List.append_assoc,
        List.append_assoc]
      rfl
    -- the first item does not begin with the bracket that would close an empty list
    obtain ⟨b, r, hb, hs, h93⟩ := write_head v
    have hitems := readItems_write v vs fuel rest hv (by
      rw [Value.write] at hf
      simp only [List.length_append, List.length_cons, List.length_nil] at hf
      omega)
    rw [hbytes]
    rw [utf8Bytes_writeItems, hb, List.cons_append] at hitems ⊢
    rw [readValue_list fuel hs h93, hitems]
    rfl
  | .object [], fuel + 1, rest, _, _, _ => by
    rfl
  | .object ((k, v) :: ms), fuel + 1, rest, hv, hf, _ => by
    have hbytes : utf8Bytes (Value.object ((k, v) :: ms)).write ++ rest =
        123 :: (utf8Bytes (writeMembers ((k, v) :: ms)) ++ 125 :: rest) := by
      rw [Value.write, List.cons_append, utf8Bytes_cons, utf8Bytes_append, List.append_assoc,
        List.append_assoc]
      rfl
    have hmembers := readMembers_write k v ms fuel rest hv (by
      rw [Value.write] at hf
      simp only [List.length_append, List.length_cons, List.length_nil] at hf
      omega)
    rw [hbytes]
    rw [utf8Bytes_writeMembers] at hmembers ⊢
    rw [readValue_object, hmembers]
    rfl

theorem readItems_write : ∀ (v : Value) (vs : List Value) (fuel : Nat) (rest : List UInt8),
    ItemsFit (v :: vs) → (writeItems (v :: vs)).length + 1 ≤ fuel →
      readItems fuel (utf8Bytes (writeItems (v :: vs)) ++ 93 :: rest) = some (shapeItems (v :: vs), rest)
  | v, vs, 0, rest, _, hf => by
    omega
  | v, [], fuel + 1, rest, hv, hf => by
    have hlen : v.write.length ≤ fuel := by
      simp only [writeItems, List.isEmpty_nil, if_true, List.length_append, List.length_nil] at hf
      omega
    have hread := readValue_write v fuel (93 :: rest) hv.1 hlen (endsNumber_bracket rest)
    rw [utf8Bytes_writeItems, if_pos rfl, readItems, hread]
    rfl
  | v, w :: ws, fuel + 1, rest, hv, hf => by
    have hlen : v.write.length ≤ fuel ∧ (writeItems (w :: ws)).length + 1 ≤ fuel := by
      rw [writeItems] at hf
      simp only [List.isEmpty_cons, Bool.false_eq_true, if_false, List.length_append, List.length_cons] at hf
      omega
    -- the comma ends the item, whatever it is, and the rest is a list of one item less
    have hread := readValue_write v fuel (44 :: (utf8Bytes (writeItems (w :: ws)) ++ 93 :: rest)) hv.1 hlen.1
      (endsNumber_comma _)
    have hitems := readItems_write w ws fuel rest hv.2 hlen.2
    rw [utf8Bytes_writeItems, if_neg (by simp), readItems, hread]
    simp only [Option.bind_eq_bind, Option.bind_some, skipSpace_cons (show isSpace 44 = false from rfl), hitems]
    rfl

theorem readMembers_write : ∀ (k : String) (v : Value) (ms : List (String × Value)) (fuel : Nat)
    (rest : List UInt8), MembersFit ((k, v) :: ms) → (writeMembers ((k, v) :: ms)).length + 1 ≤ fuel →
      readMembers fuel (utf8Bytes (writeMembers ((k, v) :: ms)) ++ 125 :: rest) =
        some (shapeMembers ((k, v) :: ms), rest)
  | k, v, ms, 0, rest, _, hf => by
    omega
  | k, v, [], fuel + 1, rest, hv, hf => by
    have hlen : v.write.length ≤ fuel := by
      simp only [writeMembers, List.isEmpty_nil, if_true, List.length_append, List.length_cons,
        List.length_nil] at hf
      omega
    have hread := readValue_write v fuel (125 :: rest) hv.1 hlen (endsNumber_brace rest)
    rw [utf8Bytes_writeMembers, if_pos rfl, readMembers, skipSpace_cons rfl]
    simp only [readPieces_writeText, Option.bind_eq_bind, Option.bind_some,
      skipSpace_cons (show isSpace 58 = false from rfl), hread, pieceText?_flatMap]
    rfl
  | k, v, (k', w) :: ms, fuel + 1, rest, hv, hf => by
    have hlen : v.write.length ≤ fuel ∧ (writeMembers ((k', w) :: ms)).length + 1 ≤ fuel := by
      rw [writeMembers] at hf
      simp only [List.isEmpty_cons, Bool.false_eq_true, if_false, List.length_append, List.length_cons] at hf
      omega
    have hread := readValue_write v fuel (44 :: (utf8Bytes (writeMembers ((k', w) :: ms)) ++ 125 :: rest)) hv.1
      hlen.1 (endsNumber_comma _)
    have hmembers := readMembers_write k' w ms fuel rest hv.2 hlen.2
    rw [utf8Bytes_writeMembers, if_neg (by simp), readMembers, skipSpace_cons rfl]
    simp only [readPieces_writeText, Option.bind_eq_bind, Option.bind_some,
      skipSpace_cons (show isSpace 58 = false from rfl), skipSpace_cons (show isSpace 44 = false from rfl),
      hread, hmembers, pieceText?_flatMap]
    rfl

end

/-! ## Whole texts -/

theorem read_write (v : Value) (h : v.Fits) : Syntax.read (utf8Bytes v.write) = some v.shape := by
  -- the reader has two steps for each byte, and a character has at least one byte
  have hlen := length_le_length_utf8Bytes v.write
  have hread := readValue_write v (2 * (utf8Bytes v.write).length + 2) [] h (by omega) endsNumber_nil
  rw [List.append_nil] at hread
  rw [Syntax.read, Syntax.readFront, hread]
  rfl

end Gatehouse.Json
