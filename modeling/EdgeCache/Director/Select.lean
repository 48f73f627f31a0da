import EdgeCache.Digest.Sha2
import EdgeCache.Director.Basic
import EdgeCache.Generator
import EdgeCache.Text.Utf8

/-!
Picking a member of a director. Only healthy members are picked. All policies but the fallback need
a quorum: a share of healthy members in whole percent.
-/

namespace EdgeCache

structure Health where
  down : List String
  deriving Repr, DecidableEq

namespace Health

def allUp : Health := ⟨[]⟩

def isUp (h : Health) (name : String) : Bool := !h.down.contains name

def set (h : Health) (name : String) (up : Bool) : Health :=
  let others := h.down.filter (· ≠ name)
  ⟨if up then others else name :: others⟩

end Health

structure SelectionKeys where
  hash : String
  client : String

namespace Director

def lotterySlots : Nat := 1000

def hashRange : Nat := 10000

def pointsPerMember : Nat := 3

def isUp (h : Health) (m : Member) : Bool := h.isUp m.backend.name

def healthy (v : Director) (h : Health) : List Member := v.members.filter (isUp h)

def quorumReached (v : Director) (h : Health) : Bool :=
  v.quorum ≤ ((v.healthy h).length * 100 / max v.members.length 1 : Nat)

def guarded {α : Type} (v : Director) (h : Health) (pick : Except DirectorError α) :
    Except DirectorError α :=
  if (v.healthy h).isEmpty then .error (.allBackendsFailed v.name)
  else if !v.quorumReached h then .error (.quorumNotReached v.name)
  else pick

def lotteryFrom (room : Nat) : List Member → List Member
  | [] => []
  | m :: ms =>
    let count := min m.weight.toNat room
    List.replicate count m ++ lotteryFrom (room - count) ms

def lottery (v : Director) (h : Health) : List Member := lotteryFrom lotterySlots (v.healthy h)

def digestPoint (count : Nat) (bytes : List UInt8) : Nat :=
  Digest.bigEndian ((Digest.sha256 bytes).take count)

/-- Whether the point of a member's name lies within a range behind the point of the key. -/
def inBucket (point : Nat) (m : Member) : Bool :=
  let place := digestPoint 8 (Utf8.ofString m.backend.name) % (hashRange * 10)
  point ≤ place && place < point + hashRange

def pickBucket (v : Director) (h : Health) (key : String) : Except DirectorError Backend :=
  let point := digestPoint 8 (Utf8.ofString key) % hashRange
  match (v.healthy h).find? (inBucket point) with
  | some m => .ok m.backend
  | none => .error (.allBackendsFailed v.name)

def ringPlace (seed : UInt32) (name : String) (i : Nat) : Nat :=
  digestPoint 4
    (Digest.toBig 4 seed.toNat ++ Utf8.ofString name ++ Utf8.encode (Decimal.digits i)) % hashRange

def ring (v : Director) (h : Health) : List (Nat × Member) :=
  (v.healthy h).flatMap fun m =>
    (List.range pointsPerMember).map fun i => (ringPlace v.seed m.backend.name i, m)

def nearer (best : Option (Nat × Member)) (p : Nat × Member) : Option (Nat × Member) :=
  match best with
  | some b => if b.1 < p.1 then some b else some p
  | none => some p

def nearest? (points : List (Nat × Member)) : Option Member := (points.foldl nearer none).map (·.2)

def onRing? (points : List (Nat × Member)) (place : Nat) : Option Member :=
  match nearest? (points.filter fun p => place ≤ p.1) with
  | some m => some m
  | none => nearest? points

def pickRing (v : Director) (h : Health) (key : String) : Except DirectorError Backend :=
  match onRing? (v.ring h) (digestPoint 4 (Utf8.ofString key) % hashRange) with
  | some m => .ok m.backend
  | none => .error (.allBackendsFailed v.name)

def pickFirst (v : Director) (h : Health) : Except DirectorError Backend :=
  match (v.healthy h).head? with
  | some m => .ok m.backend
  | none => .error (.allBackendsFailed v.name)

def attempts (v : Director) : Nat := if 0 < v.retries then v.retries.toNat else v.members.length

def holder (v : Director) (pool : List Member) (slot : Nat) : Except DirectorError Backend :=
  match pool[slot]? with
  | some m => .ok m.backend
  | none => .error (.allBackendsFailed v.name)

def drawFrom (v : Director) (pool : List Member) (g : Generator) :
    Except DirectorError Backend × Generator :=
  let drawn := g.below pool.length
  (v.holder pool drawn.1, drawn.2)

/-- Draws one of the healthy members. As long as the quorum is missed, it is tried again. -/
def tryRandom (v : Director) (h : Health) :
    Nat → Generator → Except DirectorError Backend × Generator
  | 0, g => (.error (.quorumNotReached v.name), g)
  | tries + 1, g =>
    if (v.lottery h).isEmpty then (.error (.allBackendsFailed v.name), g)
    else if !v.quorumReached h then tryRandom v h tries g
    else v.drawFrom (v.lottery h) g

def pickRandom (v : Director) (h : Health) (g : Generator) :
    Except DirectorError Backend × Generator :=
  v.tryRandom h v.attempts g

def select (v : Director) (h : Health) (keys : SelectionKeys) (g : Generator) :
    Except DirectorError Backend × Generator :=
  match v.policy with
  | .random => v.pickRandom h g
  | .fallback => (v.pickFirst h, g)
  | .hash => (v.guarded h (v.pickBucket h keys.hash), g)
  | .client => (v.guarded h (v.pickBucket h keys.client), g)
  | .ring =>
    let key := match v.key with
      | .object => keys.hash
      | .client => keys.client
    (v.guarded h (v.pickRing h key), g)

end Director

end EdgeCache
