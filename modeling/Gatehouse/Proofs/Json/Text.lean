/-
Strings survive being written and read: the escapes of a text spell that text again, whatever its
characters are, and reading stops at the closing quote.
-/
import Gatehouse.Json.Syntax
import Gatehouse.Json.Value
import Gatehouse.Proofs.Text.Utf8
import Mathlib.Tactic.SplitIfs

namespace Gatehouse.Json

open Gatehouse.Text

/-! ## Items between the quotes -/

/-- A control character without a short escape; it is written by its number. -/
def isNumbered (c : Char) : Bool :=
  decide (c.toNat < 32) && !(['\x08', '\x0c', '\n', '\r', '\t'].contains c)

/-- The items that a character's escape is read as. -/
def pieces (c : Char) : List Piece :=
  if isNumbered c then [.unit c.toNat] else (String.utf8EncodeChar c).map .byte

/-- A byte that stands for itself between the quotes. -/
def isPlain (b : UInt8) : Bool := decide (32 ≤ b.toNat) && b != 34 && b != 92

theorem readPieces_plain {b : UInt8} (h : isPlain b = true) (r : List UInt8) :
    readPieces (b :: r) = (readPieces r).map fun p => (.byte b :: p.1, p.2) := by
  simp only [isPlain, Bool.and_eq_true, decide_eq_true_eq, bne_iff_ne, ne_eq] at h
  obtain ⟨⟨h32, h34⟩, h92⟩ := h
  have hlt : ¬ (b < 32 ∨ b = 92) := by
    rintro (hb | hb)
    · have : b.toNat < 32 := hb
      omega
    · exact h92 hb
  rw [readPieces.eq_def]
  split
  · contradiction
  · rename_i heq; injection heq with h1 h2; exact absurd h1 h34
  · rename_i heq; injection heq with h1 h2; exact absurd h1 h92
  · rename_i heq; injection heq with h1 h2; exact absurd h1 h92
  · rename_i heq
    injection heq with h1 h2
    subst h1 h2
    rw [if_neg hlt]
    cases readPieces r <;> rfl

theorem readPieces_plain_append {bs : List UInt8} (h : ∀ b ∈ bs, isPlain b = true) (r : List UInt8) :
    readPieces (bs ++ r) = (readPieces r).map fun p => (bs.map .byte ++ p.1, p.2) := by
  induction bs with
  | nil => cases hr : readPieces r <;> simp [hr]
  | cons b bs ih =>
    rw [List.cons_append, readPieces_plain (h b (List.mem_cons_self ..)),
      ih fun d hd => h d (List.mem_cons_of_mem _ hd), Option.map_map]
    rfl

/-- A character that is not escaped has only bytes that stand for themselves. -/
theorem isPlain_of_mem {c : Char} (h32 : 32 ≤ c.toNat) (hq : c ≠ '"') (hs : c ≠ '\\') {b : UInt8}
    (hb : b ∈ String.utf8EncodeChar c) : isPlain b = true := by
  have hval : 32 ≤ b.toNat ∧ b.toNat ≠ 34 ∧ b.toNat ≠ 92 := by
    by_cases hc : c.toNat < 128
    · rw [utf8EncodeChar_of_lt hc, List.mem_singleton] at hb
      subst hb
      rw [UInt8.toNat_ofNat', Nat.mod_eq_of_lt (by omega)]
      refine ⟨h32, fun h => hq ?_, fun h => hs ?_⟩
      · exact Char.toNat_inj.1 h
      · exact Char.toNat_inj.1 h
    · have := le_of_mem_utf8EncodeChar (by omega) hb
      omega
  simp only [isPlain, Bool.and_eq_true, decide_eq_true_eq, bne_iff_ne, ne_eq]
  refine ⟨⟨hval.1, ?_⟩, ?_⟩
  · rintro rfl; exact hval.2.1 rfl
  · rintro rfl; exact hval.2.2 rfl

/-! ## Escapes -/

theorem hexByte?_lower : ∀ n < 16, hexByte? (UInt8.ofNat (Hex.lower n).toNat) = some n := by decide

theorem lower_toNat_lt : ∀ n < 16, (Hex.lower n).toNat < 128 := by decide

theorem readPieces_numbered {n : Nat} (h : n < 32) (r : List UInt8) :
    readPieces (utf8Bytes ['\\', 'u', '0', '0', Hex.lower (n / 16), Hex.lower (n % 16)] ++ r) =
      (readPieces r).map fun p => (.unit n :: p.1, p.2) := by
  have h1 : n / 16 < 16 := by omega
  have h2 : n % 16 < 16 := by omega
  have hbytes : utf8Bytes ['\\', 'u', '0', '0', Hex.lower (n / 16), Hex.lower (n % 16)] =
      [92, 117, 48, 48, UInt8.ofNat (Hex.lower (n / 16)).toNat, UInt8.ofNat (Hex.lower (n % 16)).toNat] := by
    simp only [utf8Bytes_cons, utf8Bytes_nil, utf8EncodeChar_of_lt (lower_toNat_lt _ h1),
      utf8EncodeChar_of_lt (lower_toNat_lt _ h2)]
    rfl
  rw [hbytes]
  simp only [List.cons_append, List.nil_append, readPieces, hexByte?_lower _ h1, hexByte?_lower _ h2,
    show hexByte? 48 = some 0 from rfl, Option.bind_eq_bind, Option.bind_some]
  rw [show 4096 * 0 + 256 * 0 + 16 * (n / 16) + n % 16 = n by omega]
  cases readPieces r <;> rfl

theorem readPieces_short {e b : UInt8} (he : e ≠ 117) (h : shortEscape? e = some b) (r : List UInt8) :
    readPieces (92 :: e :: r) = (readPieces r).map fun p => (.byte b :: p.1, p.2) := by
  rw [readPieces.eq_def]
  split
  · contradiction
  · rename_i heq; injection heq with h1 h2; cases h1
  · rename_i heq; injection heq with h1 h2; injection h2 with h2 h3; exact absurd h2 he
  · rename_i heq
    injection heq with h1 h2
    injection h2 with h2 h3
    subst h2 h3
    rw [h]
    cases readPieces r <;> rfl
  · rename_i hne heq
    injection heq with h1 h2
    exact (hne _ _ h1.symm h2.symm).elim

theorem readPieces_escapeChar (c : Char) (r : List UInt8) :
    readPieces (utf8Bytes (escapeChar c) ++ r) =
      (readPieces r).map fun p => (pieces c ++ p.1, p.2) := by
  unfold escapeChar
  -- the short escapes in the writer's order, then the escape by number, then the character itself
  split_ifs with hq hs h8 hf hn hr ht h32
  · subst hq
    exact readPieces_short (e := 34) (b := 34) (by decide) rfl r
  · subst hs
    exact readPieces_short (e := 92) (b := 92) (by decide) rfl r
  · subst h8
    exact readPieces_short (e := 98) (b := 8) (by decide) rfl r
  · subst hf
    exact readPieces_short (e := 102) (b := 12) (by decide) rfl r
  · subst hn
    exact readPieces_short (e := 110) (b := 10) (by decide) rfl r
  · subst hr
    exact readPieces_short (e := 114) (b := 13) (by decide) rfl r
  · subst ht
    exact readPieces_short (e := 116) (b := 9) (by decide) rfl r
  · have hp : pieces c = [.unit c.toNat] := by
      simp [pieces, isNumbered, h32, h8, hf, hn, hr, ht]
    rw [hp]
    exact readPieces_numbered h32 r
  · have hp : pieces c = (String.utf8EncodeChar c).map .byte := by
      simp [pieces, isNumbered, h32]
    rw [hp, utf8Bytes_cons, utf8Bytes_nil, List.append_nil]
    exact readPieces_plain_append (fun b hb => isPlain_of_mem (by omega) hq hs hb) r

/-- Reading a text between its quotes gives the items of its characters, up to the closing quote. -/
theorem readPieces_writeText (cs : List Char) (r : List UInt8) :
    readPieces (utf8Bytes (cs.flatMap escapeChar) ++ 34 :: r) = some (cs.flatMap pieces, r) := by
  induction cs with
  | nil => simp [readPieces]
  | cons c cs ih =>
    rw [List.flatMap_cons, utf8Bytes_append, List.append_assoc, readPieces_escapeChar, ih]
    simp

/-! ## The text of the items -/

theorem pieceBytes?_unit {n : Nat} (h : n < 32) (ps : List Piece) :
    pieceBytes? (.unit n :: ps) = (pieceBytes? ps).map (String.utf8EncodeChar (Char.ofNat n) ++ ·) := by
  have hhi : isHighUnit n = false := by simp [isHighUnit]; omega
  have hlo : isLowUnit n = false := by simp [isLowUnit]; omega
  rcases ps with _ | ⟨b | m, ps⟩
  · simp [pieceBytes?, hhi, hlo]
  · simp [pieceBytes?, hhi, hlo]
  · simp only [pieceBytes?.eq_3, hhi, hlo, Bool.false_eq_true, if_false]

theorem pieceBytes?_bytes (bs : List UInt8) (ps : List Piece) :
    pieceBytes? (bs.map .byte ++ ps) = (pieceBytes? ps).map (bs ++ ·) := by
  induction bs with
  | nil => simp
  | cons b bs ih =>
    rw [List.map_cons, List.cons_append, pieceBytes?, ih, Option.map_map]
    rfl

theorem pieceBytes?_pieces (c : Char) (ps : List Piece) :
    pieceBytes? (pieces c ++ ps) = (pieceBytes? ps).map (String.utf8EncodeChar c ++ ·) := by
  unfold pieces
  split
  · rename_i h
    simp only [isNumbered, Bool.and_eq_true, decide_eq_true_eq] at h
    rw [List.singleton_append, pieceBytes?_unit h.1, Char.ofNat_toNat]
  · exact pieceBytes?_bytes _ ps

theorem pieceBytes?_flatMap (cs : List Char) : pieceBytes? (cs.flatMap pieces) = some (utf8Bytes cs) := by
  induction cs with
  | nil => rfl
  | cons c cs ih => rw [List.flatMap_cons, pieceBytes?_pieces, ih, utf8Bytes_cons]; rfl

theorem pieceText?_flatMap (s : String) : pieceText? (s.toList.flatMap pieces) = some s := by
  rw [pieceText?, pieceBytes?_flatMap, Option.bind_some]
  exact ofBytes?_bytesOf s

theorem pieceShape_flatMap (s : String) : pieceShape (s.toList.flatMap pieces) = .text s := by
  rw [pieceShape, pieceText?_flatMap]

theorem utf8Bytes_writeText (s : String) :
    utf8Bytes (writeText s) = 34 :: (utf8Bytes (s.toList.flatMap escapeChar) ++ [34]) := by
  rw [writeText, utf8Bytes_append, utf8Bytes_cons]
  rfl

end Gatehouse.Json
