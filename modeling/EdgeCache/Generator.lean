import EdgeCache.Digest.Blocks
import EdgeCache.Number.Power

/-!
A deterministic generator of 64-bit words: the state advances by a constant, and a word is the
folded 128-bit product of the state with a masked copy of itself.
-/

namespace EdgeCache

structure Generator where
  state : UInt64
  deriving Repr, DecidableEq, Inhabited

namespace Generator

def ofSeed (seed : UInt64) : Generator := ⟨seed⟩

def foldProduct (a b : UInt64) : UInt64 :=
  let t := a.toNat * b.toNat
  UInt64.ofNat t ^^^ UInt64.ofNat (t / Word.count)

def next (g : Generator) : UInt64 × Generator :=
  let s := g.state + 0x2d358dccaa6c78a5
  (foldProduct s (s ^^^ 0x8bb84b93962eacc9), ⟨s⟩)

def fork (g : Generator) : Generator × Generator :=
  let (word, g) := g.next
  (ofSeed word, g)

def redraw (n threshold : Nat) : Nat → Nat → Generator → Nat × Generator
  | 0, product, g => (product / Word.count, g)
  | fuel + 1, product, g =>
    if product % Word.count < threshold then
      let (word, g) := g.next
      redraw n threshold fuel (word.toNat * n) g
    else (product / Word.count, g)

/-- A number below `n`, each as likely. A redraw has less than even odds, so the bound on their
number is never met in practice. -/
def below (g : Generator) (n : Nat) : Nat × Generator :=
  let (word, g) := g.next
  let product := word.toNat * n
  if product % Word.count < n then redraw n ((Word.count - n) % n) 4096 product g
  else (product / Word.count, g)

def between (g : Generator) (low high : Int64) : Int64 × Generator :=
  let count := (high.toInt - low.toInt + 1).toNat
  if Word.count ≤ count then
    let (word, g) := g.next
    (word.toInt64, g)
  else
    let (k, g) := g.below count
    (Int64.ofInt (low.toInt + k), g)

def blocks : Nat → Generator → List UInt8 × Generator
  | 0, g => ([], g)
  | n + 1, g =>
    let (word, g) := g.next
    let (rest, g) := blocks n g
    (Digest.toLittle 8 word.toNat ++ rest, g)

end Generator

end EdgeCache
