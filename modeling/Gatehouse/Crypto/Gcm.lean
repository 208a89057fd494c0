/-
Sealing in Galois/counter mode over AES-256, with a nonce of 12 bytes, a tag of 16 and no further
data. Each block of text is added to the cipher of a counter, so that opening adds the same stream
again; the tag is a polynomial in the sealed blocks, hidden by one more cipher block.
-/
import Gatehouse.Crypto.Aes

namespace Gatehouse.Crypto.Gcm

/-! ## The field of 2^128 elements -/

/-- One bit of the multiplier: the product so far, and the multiplicand shifted once more. -/
def multiplyBit (x : Nat) (state : Nat × Nat) (i : Nat) : Nat × Nat :=
  let (z, v) := state
  let z := if x.testBit (127 - i) then z ^^^ v else z
  let v := if v % 2 = 1 then (v / 2) ^^^ (0xe1 <<< 120) else v / 2
  (z, v)

/-- The product of two elements, whose first bit is the most significant one. -/
def multiply (x y : Nat) : Nat := ((List.range 128).foldl (multiplyBit x) (0, y)).1

/-- The bytes filled up with zeros to a whole number of blocks. -/
def padBlock (bs : List UInt8) : List UInt8 := bs ++ List.replicate ((16 - bs.length % 16) % 16) 0

/-- The polynomial in the blocks, at the hash key. -/
def polynomial (hashKey : Nat) (bytes : List UInt8) : Nat :=
  (chunks 16 bytes).foldl (fun y block => multiply (y ^^^ ofBigEndian block) hashKey) 0

/-! ## The stream -/

/-- The block that the counter of a nonce becomes. -/
def counterBlock (keys : List (List UInt8)) (nonce : List UInt8) (counter : Nat) : List UInt8 :=
  Aes.encryptWith keys (nonce ++ toBigEndian 4 counter)

/-- The bytes with a block of the stream added to them. -/
def addBlock (block bytes : List UInt8) : List UInt8 :=
  bytes.mapIdx fun i b => b ^^^ block.getD i 0

/-- The bytes with the stream added to them, block by block. -/
def addStream (keys : List (List UInt8)) (nonce : List UInt8) (counter : Nat) (bytes : List UInt8) :
    List UInt8 :=
  if _h : bytes = [] then []
  else addBlock (counterBlock keys nonce counter) (bytes.take 16) ++
    addStream keys nonce (counter + 1) (bytes.drop 16)
termination_by bytes.length
decreasing_by
  have : bytes.length ≠ 0 := fun h' => _h (List.length_eq_zero_iff.1 h')
  simp only [List.length_drop]
  omega

/-! ## Encryption and decryption -/

/-- The tag of sealed bytes under a nonce. -/
def tag (keys : List (List UInt8)) (nonce sealedBytes : List UInt8) : List UInt8 :=
  let hashKey := ofBigEndian (Aes.encryptWith keys (List.replicate 16 0))
  let lengths := toBigEndian 8 0 ++ toBigEndian 8 (8 * sealedBytes.length)
  let hash := polynomial hashKey (padBlock sealedBytes ++ lengths)
  addBlock (counterBlock keys nonce 1) (toBigEndian 16 hash)

/-- The length of a tag. -/
def tagLength : Nat := 16

/-- The text sealed under a key and a nonce, and its tag. -/
def encrypt (key nonce text : List UInt8) : List UInt8 :=
  let keys := Aes.roundKeys key
  let sealedBytes := addStream keys nonce 2 text
  sealedBytes ++ tag keys nonce sealedBytes

/-- The text that was sealed, if the bytes end in its tag. -/
def decrypt? (key nonce bytes : List UInt8) : Option (List UInt8) :=
  let keys := Aes.roundKeys key
  let sealedBytes := bytes.take (bytes.length - tagLength)
  if bytes.length ≥ tagLength ∧ bytes.drop (bytes.length - tagLength) = tag keys nonce sealedBytes then
    some (addStream keys nonce 2 sealedBytes)
  else none

theorem length_tag (keys : List (List UInt8)) (nonce sealedBytes : List UInt8) :
    (tag keys nonce sealedBytes).length = tagLength := by
  simp [tag, addBlock, length_toBigEndian, tagLength]

end Gatehouse.Crypto.Gcm
