/-
SHA-256 on lists of bytes, and HMAC over it. The message is padded to blocks of 64 bytes; each block is
stretched to 64 words, which are mixed into a state of eight words one after another. The code of a
message under a key is the digest of the key in one disguise and the digest of the message after the key
in another. Numbers and words stand as bytes with the most significant byte first.
-/
namespace Gatehouse.Crypto

/-! ## Numbers as bytes -/

/-- The number that the bytes write. -/
def ofBigEndian (bs : List UInt8) : Nat := bs.foldl (fun n b => 256 * n + b.toNat) 0

/-- The lowest `width` bytes of a number. -/
def toBigEndian : Nat → Nat → List UInt8
  | 0, _ => []
  | width + 1, n => toBigEndian width (n / 256) ++ [UInt8.ofNat (n % 256)]

theorem length_toBigEndian (width n : Nat) : (toBigEndian width n).length = width := by
  induction width generalizing n with
  | zero => rfl
  | succ w ih => simp [toBigEndian, ih]

/-- The pieces of a list, each of the given length but the last, which may be shorter. -/
def chunks {α : Type} (size : Nat) (xs : List α) : List (List α) :=
  if _h : xs = [] ∨ size = 0 then []
  else xs.take size :: chunks size (xs.drop size)
termination_by xs.length
decreasing_by
  have : xs.length ≠ 0 := fun h' => _h (.inl (List.length_eq_zero_iff.1 h'))
  simp only [List.length_drop]
  omega

namespace Sha256

/-! ## Words -/

/-- A word turned to the right. -/
def rotate (x : UInt32) (n : UInt32) : UInt32 := (x >>> n) ||| (x <<< (32 - n))

/-- The first 32 bits of the fractional parts of the cube roots of the first 64 primes. -/
def roundConstants : Array UInt32 := #[
  0x428a2f98, 0x71374491, 0xb5c0fbcf, 0xe9b5dba5, 0x3956c25b, 0x59f111f1, 0x923f82a4, 0xab1c5ed5,
  0xd807aa98, 0x12835b01, 0x243185be, 0x550c7dc3, 0x72be5d74, 0x80deb1fe, 0x9bdc06a7, 0xc19bf174,
  0xe49b69c1, 0xefbe4786, 0x0fc19dc6, 0x240ca1cc, 0x2de92c6f, 0x4a7484aa, 0x5cb0a9dc, 0x76f988da,
  0x983e5152, 0xa831c66d, 0xb00327c8, 0xbf597fc7, 0xc6e00bf3, 0xd5a79147, 0x06ca6351, 0x14292967,
  0x27b70a85, 0x2e1b2138, 0x4d2c6dfc, 0x53380d13, 0x650a7354, 0x766a0abb, 0x81c2c92e, 0x92722c85,
  0xa2bfe8a1, 0xa81a664b, 0xc24b8b70, 0xc76c51a3, 0xd192e819, 0xd6990624, 0xf40e3585, 0x106aa070,
  0x19a4c116, 0x1e376c08, 0x2748774c, 0x34b0bcb5, 0x391c0cb3, 0x4ed8aa4a, 0x5b9cca4f, 0x682e6ff3,
  0x748f82ee, 0x78a5636f, 0x84c87814, 0x8cc70208, 0x90befffa, 0xa4506ceb, 0xbef9a3f7, 0xc67178f2]

/-- The eight words that a message is mixed into. -/
structure State where
  a : UInt32
  b : UInt32
  c : UInt32
  d : UInt32
  e : UInt32
  f : UInt32
  g : UInt32
  h : UInt32
  deriving DecidableEq, Repr

/-- The first 32 bits of the fractional parts of the square roots of the first eight primes. -/
def State.start : State :=
  ⟨0x6a09e667, 0xbb67ae85, 0x3c6ef372, 0xa54ff53a, 0x510e527f, 0x9b05688c, 0x1f83d9ab, 0x5be0cd19⟩

/-- The words of a state added to those of another. -/
def State.add (s t : State) : State :=
  ⟨s.a + t.a, s.b + t.b, s.c + t.c, s.d + t.d, s.e + t.e, s.f + t.f, s.g + t.g, s.h + t.h⟩

/-! ## Mixing -/

/-- The 64 words of a block. -/
def schedule (block : List UInt8) : Array UInt32 :=
  let words := (chunks 4 block).map fun w => UInt32.ofNat (ofBigEndian w)
  (List.range 48).foldl (fun w i =>
    let x := w.getD (i + 1) 0
    let y := w.getD (i + 14) 0
    let s0 := rotate x 7 ^^^ rotate x 18 ^^^ (x >>> 3)
    let s1 := rotate y 17 ^^^ rotate y 19 ^^^ (y >>> 10)
    w.push (w.getD i 0 + s0 + w.getD (i + 9) 0 + s1)) words.toArray

/-- A word, with the constant of its round, mixed into the state. -/
def round (s : State) (word constant : UInt32) : State :=
  let s1 := rotate s.e 6 ^^^ rotate s.e 11 ^^^ rotate s.e 25
  let choice := (s.e &&& s.f) ^^^ ((~~~ s.e) &&& s.g)
  let t1 := s.h + s1 + choice + constant + word
  let s0 := rotate s.a 2 ^^^ rotate s.a 13 ^^^ rotate s.a 22
  let majority := (s.a &&& s.b) ^^^ (s.a &&& s.c) ^^^ (s.b &&& s.c)
  ⟨t1 + (s0 + majority), s.a, s.b, s.c, s.d + t1, s.e, s.f, s.g⟩

/-- A block mixed into the state. -/
def compress (s : State) (block : List UInt8) : State :=
  let words := schedule block
  s.add ((List.range 64).foldl (fun s i => round s (words.getD i 0) (roundConstants.getD i 0)) s)

/-- The message, a one bit, zeros up to eight bytes below a block, and its length in bits. -/
def pad (message : List UInt8) : List UInt8 :=
  let n := message.length
  message ++ 0x80 :: List.replicate ((119 - n % 64) % 64) 0 ++ toBigEndian 8 (8 * n)

/-- The words of a state as bytes. -/
def State.bytes (s : State) : List UInt8 :=
  [s.a, s.b, s.c, s.d, s.e, s.f, s.g, s.h].flatMap fun w => toBigEndian 4 w.toNat

/-- The 32 bytes of a message's digest. -/
def hash (message : List UInt8) : List UInt8 :=
  ((chunks 64 (pad message)).foldl compress State.start).bytes

theorem length_hash (message : List UInt8) : (hash message).length = 32 := by
  simp [hash, State.bytes, length_toBigEndian]

end Sha256

/-! ## Codes under a key -/

namespace Hmac

/-- The key at the length of a block; a longer key is hashed first. -/
def blockKey (key : List UInt8) : List UInt8 :=
  let key := if key.length > 64 then Sha256.hash key else key
  key ++ List.replicate (64 - key.length) 0

/-- The code of a message under a key. -/
def sha256 (key message : List UInt8) : List UInt8 :=
  let key := blockKey key
  let inner := Sha256.hash (key.map (· ^^^ 0x36) ++ message)
  Sha256.hash (key.map (· ^^^ 0x5c) ++ inner)

end Hmac

end Gatehouse.Crypto
