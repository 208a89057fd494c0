/-
AES-256: one block of 16 bytes under a key of 32. A block is a square of four columns; a round
substitutes its bytes, turns its rows, mixes its columns and adds a round key.
-/
import Gatehouse.Crypto.Sha256

namespace Gatehouse.Crypto.Aes

/-! ## The field of 256 elements -/

/-- An element times the element 2. -/
def double (x : UInt8) : UInt8 := if x &&& 0x80 = 0 then x <<< 1 else (x <<< 1) ^^^ 0x1b

/-- The product of two elements. -/
def times (x y : UInt8) : UInt8 :=
  ((List.range 8).foldl (fun (acc, x) i =>
    (if (y >>> UInt8.ofNat i) &&& 1 = 1 then acc ^^^ x else acc, double x)) ((0 : UInt8), x)).1

/-- The inverse of an element, its 254th power; zero for zero. The square of the power 127, which
six steps reach from the first: each squares and multiplies once more. -/
def inverse (x : UInt8) : UInt8 :=
  let power := (List.range 6).foldl (fun acc _ => times (times acc acc) x) x
  times power power

/-- A byte turned to the left. -/
def turn (x : UInt8) (n : UInt8) : UInt8 := (x <<< n) ||| (x >>> (8 - n))

/-- What a byte is substituted by: its inverse, mixed with four turns of itself. -/
def substitute (x : UInt8) : UInt8 :=
  let y := inverse x
  y ^^^ turn y 1 ^^^ turn y 2 ^^^ turn y 3 ^^^ turn y 4 ^^^ 0x63

/-- The substitution of every byte. -/
def table : Array UInt8 := Array.ofFn fun i : Fin 256 => substitute (UInt8.ofNat i.val)

/-- What a byte is substituted by, looked up. -/
def sub (x : UInt8) : UInt8 := table.getD x.toNat 0

/-! ## The key -/

/-- The words of four bytes that the round keys are cut from. -/
def expand (key : List UInt8) : Array (List UInt8) :=
  ((List.range 52).foldl (fun (ws, constant) i =>
    let last := ws.getD (i + 7) []
    let (step, constant) :=
      if i % 8 = 0 then
        let turned := (last.drop 1 ++ last.take 1).map sub
        (List.zipWith (· ^^^ ·) turned [constant, 0, 0, 0], double constant)
      else if i % 8 = 4 then (last.map sub, constant)
      else (last, constant)
    (ws.push (List.zipWith (· ^^^ ·) (ws.getD i []) step), constant))
    ((chunks 4 key).toArray, (1 : UInt8))).1

/-- The round keys, one more than there are rounds. -/
def roundKeys (key : List UInt8) : List (List UInt8) :=
  (chunks 4 (expand key).toList).map List.flatten

/-! ## The rounds -/

/-- The byte at a place of a block. -/
def byteAt (block : List UInt8) (i : Nat) : UInt8 := block.getD i 0

/-- The rows of a block, each turned by its number. -/
def shiftRows (block : List UInt8) : List UInt8 :=
  let bytes := block.toArray
  (List.range 16).map fun i => bytes.getD ((i + 4 * (i % 4)) % 16) 0

/-- A column mixed. -/
def mixColumn (column : List UInt8) : List UInt8 :=
  let total := column.foldl (· ^^^ ·) 0
  (List.range 4).map fun i =>
    let x := byteAt column i
    x ^^^ total ^^^ double (x ^^^ byteAt column ((i + 1) % 4))

/-- A block and a round key added. -/
def addKey (block key : List UInt8) : List UInt8 := List.zipWith (· ^^^ ·) block key

/-- The block of 16 bytes that a block becomes under the round keys. -/
def encryptWith (keys : List (List UInt8)) (block : List UInt8) : List UInt8 :=
  match keys with
  | [] => block
  | first :: rest =>
    let mixed := rest.dropLast.foldl (fun block key =>
      addKey ((chunks 4 (shiftRows (block.map sub))).flatMap mixColumn) key) (addKey block first)
    addKey (shiftRows (mixed.map sub)) (rest.getLastD [])

/-- The block of 16 bytes that a block becomes under a key. -/
def encrypt (key block : List UInt8) : List UInt8 := encryptWith (roundKeys key) block

end Gatehouse.Crypto.Aes
