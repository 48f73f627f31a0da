import EdgeCache.Number.Power

/-!
Double-precision numbers taken apart: a finite one is `(-1)^s · m · 2^e` with natural `m`. Rounding
to an integer, and reading an integer back, go through this form in exact arithmetic.
-/

namespace EdgeCache.Binary64

structure Parts where
  negative : Bool
  mantissa : Nat
  exponent : Int
  deriving Repr, DecidableEq

inductive Shape where
  | nan
  | infinite (negative : Bool)
  | finite (parts : Parts)
  deriving Repr, DecidableEq

def ofBits (bits : Nat) : Shape :=
  let negative := bits / Word.half % 2 == 1
  let exponent : Nat := bits / twoTo 52 % twoTo 11
  let fraction := bits % twoTo 52
  if exponent = 2047 then
    if fraction = 0 then .infinite negative else .nan
  else if exponent = 0 then .finite ⟨negative, fraction, -1074⟩
  else .finite ⟨negative, fraction + twoTo 52, (exponent : Int) - 1075⟩

def shape (x : Float) : Shape := ofBits x.toBits.toNat

def nan : Float := 0.0 / 0.0
def infinity : Float := 1.0 / 0.0

/-- The double `m · 2^e`, where `m` has at most 53 significant bits and `e` is in range. -/
def ofBinary (m : Nat) (e : Int) : Float :=
  if m = 0 then 0.0
  else
    let width : Int := m.log2 + 1
    -- the exponent of the last of 53 bits, which does not go below that of the least double
    let low := max (e + width - 53) (-1074)
    let digits := if low ≤ e then m * twoTo (e - low).toNat else m / twoTo (low - e).toNat
    let bits := if digits < twoTo 52 then digits else (low + 1074).toNat * twoTo 52 + digits
    Float.ofBits (UInt64.ofNat bits)

inductive Rounding where
  | down
  | up
  | halfUp
  | halfEven

def Rounding.divide (r : Rounding) (num den : Nat) : Nat :=
  let q := num / den
  let rest := num % den
  match r with
  | .down => q
  | .up => if rest = 0 then q else q + 1
  | .halfUp => if den ≤ 2 * rest then q + 1 else q
  | .halfEven =>
    if den < 2 * rest then q + 1
    else if 2 * rest = den then (if q % 2 = 0 then q else q + 1)
    else q

def Parts.scaled (p : Parts) (scale : Nat) (r : Rounding) : Nat :=
  match p.exponent with
  | .ofNat e => p.mantissa * twoTo e * scale
  | .negSucc e => r.divide (p.mantissa * scale) (twoTo (e + 1))

def Parts.signed (p : Parts) (n : Nat) : Int := if p.negative then -(n : Int) else n

def Parts.truncate (p : Parts) : Int := p.signed (p.scaled 1 .down)

def Parts.round (p : Parts) : Int := p.signed (p.scaled 1 .halfUp)

def Parts.floor (p : Parts) : Int := p.signed (p.scaled 1 (if p.negative then .up else .down))

def Parts.ceil (p : Parts) : Int := p.signed (p.scaled 1 (if p.negative then .down else .up))

/-- A double rounded by `f`, which keeps the sign also of a zero. Doubles that are not finite
stay. -/
def roundedBy (f : Parts → Int) (x : Float) : Float :=
  match shape x with
  | .finite p =>
    let y := Float.ofNat (f p).natAbs
    if p.negative then -y else y
  | _ => x

def truncate : Float → Float := roundedBy Parts.truncate
def round : Float → Float := roundedBy Parts.round
def floor : Float → Float := roundedBy Parts.floor
def ceil : Float → Float := roundedBy Parts.ceil

def clamp (lo hi n : Int) : Int := max lo (min hi n)

/-- The integer within `[lo, hi]` that `f` makes of a double: infinities go to the ends, and what is
not a number to zero. -/
def toIntBy (f : Parts → Int) (lo hi : Int) (x : Float) : Int :=
  match shape x with
  | .nan => clamp lo hi 0
  | .infinite true => lo
  | .infinite false => hi
  | .finite p => clamp lo hi (f p)

def toInt64 (x : Float) : Int64 := Int64.ofInt (toIntBy Parts.truncate Word.least Word.greatest x)

def roundToInt64 (x : Float) : Int := toIntBy Parts.round Word.least Word.greatest x

def isZero (x : Float) : Bool :=
  match shape x with
  | .finite p => p.mantissa == 0
  | _ => false

def isNaN (x : Float) : Bool := shape x == .nan

def isInfinite (x : Float) : Bool :=
  match shape x with
  | .infinite _ => true
  | _ => false

def isFinite (x : Float) : Bool :=
  match shape x with
  | .finite _ => true
  | _ => false

def remainder (x y : Float) : Float :=
  match shape x, shape y with
  | .finite _, .infinite _ => x
  | .finite a, .finite b =>
    if b.mantissa = 0 then nan
    else
      let low := min a.exponent b.exponent
      let m := a.mantissa * twoTo (a.exponent - low).toNat
      let n := b.mantissa * twoTo (b.exponent - low).toNat
      let rest := ofBinary (m % n) low
      if a.negative then -rest else rest
  | _, _ => nan

end EdgeCache.Binary64
