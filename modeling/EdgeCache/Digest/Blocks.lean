/-!
What the hash functions share: filling a message up to whole blocks, cutting it, and words as bytes.
-/

namespace EdgeCache.Digest

def bigEndian : List UInt8 → Nat := List.foldl (fun n b => n * 256 + b.toNat) 0

def littleEndian (bytes : List UInt8) : Nat := bigEndian bytes.reverse

def toLittle : Nat → Nat → List UInt8
  | 0, _ => []
  | count + 1, n => UInt8.ofNat (n % 256) :: toLittle count (n / 256)

def toBig (count n : Nat) : List UInt8 := (toLittle count n).reverse

/-- A one bit, zeros, and the length in bits in `lengthBytes`, up to a multiple of `block` bytes. -/
def fill (block lengthBytes : Nat) (bigLength : Bool) (message : List UInt8) : List UInt8 :=
  let n := message.length
  let zeros := (block - (n + 1 + lengthBytes) % block) % block
  let length := if bigLength then toBig lengthBytes (n * 8) else toLittle lengthBytes (n * 8)
  message ++ 0x80 :: List.replicate zeros 0 ++ length

def cutFrom {α : Type} (size : Nat) : Nat → List α → List (List α)
  | 0, _ => []
  | fuel + 1, xs => if xs.isEmpty then [] else xs.take size :: cutFrom size fuel (xs.drop size)

def cut {α : Type} (size : Nat) (xs : List α) : List (List α) := cutFrom size xs.length xs

def rotateLeft32 (x : UInt32) (n : UInt32) : UInt32 := (x <<< n) ||| (x >>> (32 - n))

end EdgeCache.Digest
