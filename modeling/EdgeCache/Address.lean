import EdgeCache.Number.Decimal
import EdgeCache.Number.Power
import EdgeCache.Text.Integer

/-!
Internet addresses of both families: their text form, reading it, and agreement on leading bits.
-/

namespace EdgeCache

inductive Address where
  | v4 (bits : BitVec 32)
  | v6 (bits : BitVec 128)
  deriving DecidableEq

namespace Address

abbrev Reader (α : Type) := List Char → Option (α × List Char)

def number (base most limit : Nat) (zeros : Bool) : Reader Nat := fun cs =>
  let ds := cs.takeWhile (Integer.isDigit base)
  if ds.isEmpty ∨ most < ds.length then none
  else if !zeros ∧ 1 < ds.length ∧ ds.head? = some '0' then none
  else
    let n := Integer.ofDigits base ds
    if limit < n then none else some (n, cs.drop ds.length)

def after (c : Char) : List Char → Option (List Char)
  | [] => none
  | d :: rest => if c = d then some rest else none

def readV4 : Reader (BitVec 32) := fun cs => do
  let (a, cs) ← number 10 3 255 false cs
  let (b, cs) ← (after '.' cs).bind (number 10 3 255 false)
  let (c, cs) ← (after '.' cs).bind (number 10 3 255 false)
  let (d, cs) ← (after '.' cs).bind (number 10 3 255 false)
  return (BitVec.ofNat 32 (((a * 256 + b) * 256 + c) * 256 + d), cs)

/-- Up to `room` groups of 16 bits, each but the first after a colon. An address of the other family
may take the place of the last two. Tells whether one did. -/
def groups : Nat → Bool → List Char → List Nat × Bool × List Char
  | 0, _, cs => ([], false, cs)
  | room + 1, first, cs =>
    let start := if first then some cs else after ':' cs
    let dotted := if room = 0 then none else start.bind readV4
    match dotted with
    | some (short, rest) => ([short.toNat / 65536, short.toNat % 65536], true, rest)
    | none =>
      match start.bind (number 16 4 65535 true) with
      | some (g, rest) =>
        let (gs, embedded, rest) := groups room false rest
        (g :: gs, embedded, rest)
      | none => ([], false, cs)

def joinGroups (gs : List Nat) : BitVec 128 :=
  BitVec.ofNat 128 (gs.foldl (fun n g => n * 65536 + g) 0)

def readV6 : Reader (BitVec 128) := fun cs =>
  let (head, embedded, rest) := groups 8 true cs
  if head.length = 8 then some (joinGroups head, rest)
  else if embedded then none
  else
    match rest with
    | ':' :: ':' :: rest =>
      let (tail, _, rest) := groups (7 - head.length) true rest
      some (joinGroups (head ++ List.replicate (8 - head.length - tail.length) 0 ++ tail), rest)
    | _ => none

def readV4? (cs : List Char) : Option (BitVec 32) :=
  match readV4 cs with
  | some (bits, []) => some bits
  | _ => none

def readV6? (cs : List Char) : Option (BitVec 128) :=
  match readV6 cs with
  | some (bits, []) => some bits
  | _ => none

def read? (text : String) : Option Address :=
  match readV4? text.toList with
  | some bits => some (.v4 bits)
  | none => (readV6? text.toList).map .v6

def byteText (n : Nat) : List Char := Decimal.digits (n % 256)

def textV4 (bits : BitVec 32) : List Char :=
  let n := bits.toNat
  byteText (n / twoTo 24) ++ '.' :: byteText (n / twoTo 16) ++ '.' :: byteText (n / twoTo 8) ++
    '.' :: byteText n

def groupsOf (bits : BitVec 128) : List Nat :=
  (List.range 8).map fun i => bits.toNat / twoTo (16 * (7 - i)) % 65536

def hexGroups : List Nat → List Char
  | [] => []
  | [g] => Nat.toDigits 16 g
  | g :: gs => Nat.toDigits 16 g ++ ':' :: hexGroups gs

def longestZeros (gs : List Nat) : Nat × Nat :=
  (List.range gs.length).foldl
    (fun best i =>
      let run := ((gs.drop i).takeWhile (· == 0)).length
      if best.2 < run then (i, run) else best)
    (0, 0)

/-- Runs of at least two zero groups are written `::`, the longest of them; addresses that stand for
one of the other family end in its form. -/
def textV6 (bits : BitVec 128) : List Char :=
  let gs := groupsOf bits
  if gs.take 6 = [0, 0, 0, 0, 0, 65535] then
    "::ffff:".toList ++ textV4 (BitVec.ofNat 32 (bits.toNat % twoTo 32))
  else
    let (start, run) := longestZeros gs
    if run ≤ 1 then hexGroups gs
    else hexGroups (gs.take start) ++ ':' :: ':' :: hexGroups (gs.drop (start + run))

def text : Address → String
  | .v4 bits => String.ofList (textV4 bits)
  | .v6 bits => String.ofList (textV6 bits)

def isV4 : Address → Bool
  | .v4 _ => true
  | .v6 _ => false

def width : Address → Nat
  | .v4 _ => 32
  | .v6 _ => 128

/-- How far the ones of a mask are shifted so that `count` of them are left. Where none are to be
left, nothing is shifted, since a shift has to be shorter than the word. -/
def maskShift? (width count : Nat) : Option Nat :=
  let ones := min count width
  if ones = 0 then none else some (width - ones)

def mask (width count : Nat) : BitVec width :=
  match maskShift? width count with
  | some n => BitVec.allOnes width <<< n
  | none => 0

def masked (count : Nat) : Address → Address
  | .v4 bits => .v4 (bits &&& mask 32 count)
  | .v6 bits => .v6 (bits &&& mask 128 count)

def agree (count : Nat) (a b : Address) : Bool := a.masked count == b.masked count

def loopback : Address := .v4 0x7f000001#32

def ofSocket? (text : String) : Option (Address × Nat) :=
  match text.toList with
  | '[' :: cs => do
    let (bits, rest) ← readV6 cs
    let rest ←
      match rest with
      | '%' :: zone => (number 10 zone.length (twoTo 32 - 1) true zone).map (·.2)
      | rest => some rest
    let rest ← (after ']' rest).bind (after ':')
    let (port, rest) ← number 10 rest.length 65535 true rest
    if rest.isEmpty then some (.v6 bits, port) else none
  | cs => do
    let (bits, rest) ← readV4 cs
    let rest ← after ':' rest
    let (port, rest) ← number 10 rest.length 65535 true rest
    if rest.isEmpty then some (.v4 bits, port) else none

end Address

end EdgeCache
