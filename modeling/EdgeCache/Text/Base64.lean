import EdgeCache.Number.Power

/-!
Bytes as digits of base 64, in the standard alphabet or the one for URLs. A reader demands the
filling signs at the end or takes the text with or without them; bits left over at the end must be
zero.
-/

namespace EdgeCache.Base64

inductive Alphabet where
  | standard
  | url
  deriving Repr, DecidableEq

def digitOf (a : Alphabet) (n : Nat) : Char :=
  if n < 26 then Char.ofNat ('A'.toNat + n)
  else if n < 52 then Char.ofNat ('a'.toNat + (n - 26))
  else if n < 62 then Char.ofNat ('0'.toNat + (n - 52))
  else
    match a, n with
    | .standard, 62 => '+'
    | .standard, _ => '/'
    | .url, 62 => '-'
    | .url, _ => '_'

def value? (a : Alphabet) (b : UInt8) : Option Nat :=
  let n := b.toNat
  if 65 ≤ n ∧ n ≤ 90 then some (n - 65)
  else if 97 ≤ n ∧ n ≤ 122 then some (n - 71)
  else if 48 ≤ n ∧ n ≤ 57 then some (n + 4)
  else
    match a with
    | .standard => if n = 43 then some 62 else if n = 47 then some 63 else none
    | .url => if n = 45 then some 62 else if n = 95 then some 63 else none

/-- Three bytes give four digits. A shorter rest gives as many digits as its bits need, and then
filling signs if `pad` asks for them. -/
def encode (a : Alphabet) (pad : Bool) : List UInt8 → List Char
  | x :: y :: z :: rest =>
    let n := x.toNat * 65536 + y.toNat * 256 + z.toNat
    digitOf a (n / 262144) :: digitOf a (n / 4096 % 64) :: digitOf a (n / 64 % 64) ::
      digitOf a (n % 64) :: encode a pad rest
  | [x, y] =>
    let n := x.toNat * 1024 + y.toNat * 4
    [digitOf a (n / 4096), digitOf a (n / 64 % 64), digitOf a (n % 64)] ++
      (if pad then ['='] else [])
  | [x] =>
    let n := x.toNat * 16
    [digitOf a (n / 64), digitOf a (n % 64)] ++ (if pad then ['=', '='] else [])
  | [] => []

inductive Error where
  | invalidByte (byte : UInt8) (offset : Nat)
  | invalidLength (length : Nat)
  | invalidLastSymbol (byte : UInt8) (offset : Nat)
  | invalidPadding
  deriving Repr, DecidableEq

def Error.message : Error → String
  | .invalidByte b i => s!"Invalid symbol {b.toNat}, offset {i}."
  | .invalidLength n => s!"Invalid input length: {n}"
  | .invalidLastSymbol b i => s!"Invalid last symbol {b.toNat}, offset {i}."
  | .invalidPadding => "Invalid padding"

inductive Padding where
  | required
  | optional
  deriving Repr, DecidableEq

def fillByte : UInt8 := 61

/-- Reads whole groups of four digits as long as a further group or an incomplete one follows. Gives
the bytes and the rest with its offset. -/
def decodeGroups (a : Alphabet) (offset : Nat) :
    List UInt8 → Except Error (List UInt8 × List UInt8 × Nat)
  | p :: q :: r :: s :: t :: rest =>
    match value? a p with
    | none => .error (.invalidByte p offset)
    | some i =>
      match value? a q with
      | none => .error (.invalidByte q (offset + 1))
      | some j =>
        match value? a r with
        | none => .error (.invalidByte r (offset + 2))
        | some k =>
          match value? a s with
          | none => .error (.invalidByte s (offset + 3))
          | some l => do
            let (bytes, tail) ← decodeGroups a (offset + 4) (t :: rest)
            let n := i * 262144 + j * 4096 + k * 64 + l
            return (UInt8.ofNat (n / 65536) :: UInt8.ofNat (n / 256) :: UInt8.ofNat n :: bytes,
              tail)
  | tail => .ok ([], tail, offset)

/-- What the last group holds: the values of its digits, the last digit, and where among them the
first of the filling signs stood. -/
structure LastGroup where
  values : List Nat
  lastDigit : UInt8
  firstFill : Option Nat
  fills : Nat

/-- Reads the last group, from its place `i` on. Filling signs stand at the third place or later,
and nothing but others of their kind follows them. -/
def readLastGroup (a : Alphabet) (offset : Nat) :
    Nat → LastGroup → List UInt8 → Except Error LastGroup
  | _, g, [] => .ok g
  | i, g, b :: rest =>
    if b = fillByte then
      if i < 2 then .error (.invalidByte b (offset + i))
      else
        readLastGroup a offset (i + 1)
          { g with firstFill := some (g.firstFill.getD i), fills := g.fills + 1 } rest
    else
      match g.firstFill, value? a b with
      | some j, _ => .error (.invalidByte fillByte (offset + j))
      | none, none => .error (.invalidByte b (offset + i))
      | none, some v =>
        readLastGroup a offset (i + 1) { g with values := g.values ++ [v], lastDigit := b } rest

/-- A single byte after whole groups is looked at before all else, since it is most often a line
end. -/
def checkStray (a : Alphabet) (text : List UInt8) : Except Error Unit :=
  if text.length % 4 = 1 then
    match text.getLast? with
    | some b =>
      if b ≠ fillByte ∧ (value? a b).isNone then .error (.invalidByte b (text.length - 1))
      else .ok ()
    | none => .ok ()
  else .ok ()

def decode (a : Alphabet) (padding : Padding) (text : List UInt8) : Except Error (List UInt8) := do
  checkStray a text
  let (bytes, tail, offset) ← decodeGroups a 0 text
  let g ← readLastGroup a offset 0 ⟨[], 0, none, 0⟩ tail
  if tail ≠ [] ∧ g.values.length < 2 then
    throw (.invalidLength (offset + g.values.length))
  if padding = .required ∧ (g.fills + g.values.length) % 4 ≠ 0 then
    throw .invalidPadding
  let n := (g.values ++ List.replicate (4 - g.values.length) 0).foldl (fun n v => n * 64 + v) 0
  let count := g.values.length * 6 / 8
  if n % twoTo (24 - count * 8) ≠ 0 then
    throw (.invalidLastSymbol g.lastDigit (offset + g.values.length - 1))
  return bytes ++ [UInt8.ofNat (n / 65536), UInt8.ofNat (n / 256), UInt8.ofNat n].take count

end EdgeCache.Base64
