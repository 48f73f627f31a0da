import EdgeCache.Digest.Blocks

/-!
The hash function MD5, whose words are little-endian.
-/

namespace EdgeCache.Digest

namespace Md5

/-- The additive constants: whole parts of `2^32 |sin i|`. -/
def constants : List UInt32 :=
  [0xd76aa478, 0xe8c7b756, 0x242070db, 0xc1bdceee, 0xf57c0faf, 0x4787c62a, 0xa8304613, 0xfd469501,
    0x698098d8, 0x8b44f7af, 0xffff5bb1, 0x895cd7be, 0x6b901122, 0xfd987193, 0xa679438e, 0x49b40821,
    0xf61e2562, 0xc040b340, 0x265e5a51, 0xe9b6c7aa, 0xd62f105d, 0x02441453, 0xd8a1e681, 0xe7d3fbc8,
    0x21e1cde6, 0xc33707d6, 0xf4d50d87, 0x455a14ed, 0xa9e3e905, 0xfcefa3f8, 0x676f02d9, 0x8d2a4c8a,
    0xfffa3942, 0x8771f681, 0x6d9d6122, 0xfde5380c, 0xa4beea44, 0x4bdecfa9, 0xf6bb4b60, 0xbebfbc70,
    0x289b7ec6, 0xeaa127fa, 0xd4ef3085, 0x04881d05, 0xd9d4d039, 0xe6db99e5, 0x1fa27cf8, 0xc4ac5665,
    0xf4292244, 0x432aff97, 0xab9423a7, 0xfc93a039, 0x655b59c3, 0x8f0ccc92, 0xffeff47d, 0x85845dd1,
    0x6fa87e4f, 0xfe2ce6e0, 0xa3014314, 0x4e0811a1, 0xf7537e82, 0xbd3af235, 0x2ad7d2bb, 0xeb86d391]

def shifts : List (List UInt32) :=
  [[7, 12, 17, 22], [5, 9, 14, 20], [4, 11, 16, 23], [6, 10, 15, 21]]

structure State where
  a : UInt32
  b : UInt32
  c : UInt32
  d : UInt32

def mix (i : Nat) (s : State) : UInt32 × Nat :=
  if i < 16 then ((s.b &&& s.c) ||| (s.b.complement &&& s.d), i)
  else if i < 32 then ((s.d &&& s.b) ||| (s.d.complement &&& s.c), (5 * i + 1) % 16)
  else if i < 48 then (s.b ^^^ s.c ^^^ s.d, (3 * i + 5) % 16)
  else (s.c ^^^ (s.b ||| s.d.complement), 7 * i % 16)

def round (ws : List UInt32) (s : State) (ik : Nat × UInt32) : State :=
  let (i, k) := ik
  let (f, g) := mix i s
  let shift := ((shifts.getD (i / 16) []).getD (i % 4) 0)
  ⟨s.d, s.b + rotateLeft32 (s.a + f + k + ws.getD g 0) shift, s.b, s.c⟩

def compress (s : State) (block : List UInt8) : State :=
  let ws := (cut 4 block).map fun w => UInt32.ofNat (littleEndian w)
  let t := ((List.range 64).zip constants).foldl (round ws) s
  ⟨s.a + t.a, s.b + t.b, s.c + t.c, s.d + t.d⟩

end Md5

def md5 (message : List UInt8) : List UInt8 :=
  let s := (cut 64 (fill 64 8 false message)).foldl Md5.compress
    ⟨0x67452301, 0xefcdab89, 0x98badcfe, 0x10325476⟩
  [s.a, s.b, s.c, s.d].flatMap fun w => toLittle 4 w.toNat

end EdgeCache.Digest
