import EdgeCache.Digest.Blocks

/-!
The hash function SHA-1.
-/

namespace EdgeCache.Digest

namespace Sha1

structure State where
  a : UInt32
  b : UInt32
  c : UInt32
  d : UInt32
  e : UInt32

def schedule : Nat → List UInt32 → List UInt32
  | 0, ws => ws
  | count + 1, ws =>
    schedule count
      (rotateLeft32 (ws.getD 2 0 ^^^ ws.getD 7 0 ^^^ ws.getD 13 0 ^^^ ws.getD 15 0) 1 :: ws)

def round (s : State) (iw : Nat × UInt32) : State :=
  let (i, w) := iw
  let (f, k) : UInt32 × UInt32 :=
    if i < 20 then ((s.b &&& s.c) ||| (s.b.complement &&& s.d), 0x5a827999)
    else if i < 40 then (s.b ^^^ s.c ^^^ s.d, 0x6ed9eba1)
    else if i < 60 then ((s.b &&& s.c) ||| (s.b &&& s.d) ||| (s.c &&& s.d), 0x8f1bbcdc)
    else (s.b ^^^ s.c ^^^ s.d, 0xca62c1d6)
  ⟨rotateLeft32 s.a 5 + f + s.e + k + w, s.a, rotateLeft32 s.b 30, s.c, s.d⟩

def compress (s : State) (block : List UInt8) : State :=
  let ws := (cut 4 block).map fun w => UInt32.ofNat (bigEndian w)
  let ws := (schedule 64 ws.reverse).reverse
  let t := ((List.range 80).zip ws).foldl round s
  ⟨s.a + t.a, s.b + t.b, s.c + t.c, s.d + t.d, s.e + t.e⟩

end Sha1

def sha1 (message : List UInt8) : List UInt8 :=
  let s := (cut 64 (fill 64 8 true message)).foldl Sha1.compress
    ⟨0x67452301, 0xefcdab89, 0x98badcfe, 0x10325476, 0xc3d2e1f0⟩
  [s.a, s.b, s.c, s.d, s.e].flatMap fun w => toBig 4 w.toNat

end EdgeCache.Digest
