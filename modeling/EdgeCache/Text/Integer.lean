import EdgeCache.Number.Power
import EdgeCache.Text.Blank

/-!
Whole numbers as text, in bases 2 to 36. A strict reader takes a whole text and says what is wrong
with it; a lenient one takes the longest start that is a number, and keeps within 64 bits.
-/

namespace EdgeCache.Integer

def value? (base : Nat) (c : Char) : Option Nat :=
  let v :=
    if '0' ≤ c ∧ c ≤ '9' then some (c.toNat - '0'.toNat)
    else if 'a' ≤ c ∧ c ≤ 'z' then some (c.toNat - 'a'.toNat + 10)
    else if 'A' ≤ c ∧ c ≤ 'Z' then some (c.toNat - 'A'.toNat + 10)
    else none
  v.filter (· < base)

def isDigit (base : Nat) (c : Char) : Bool := (value? base c).isSome

def ofDigits (base : Nat) (cs : List Char) : Nat :=
  cs.foldl (fun n c => n * base + (value? base c).getD 0) 0

inductive Error where
  | empty
  | invalidDigit
  | tooLarge
  | tooSmall
  deriving Repr, DecidableEq

def Error.message : Error → String
  | .empty => "cannot parse integer from empty string"
  | .invalidDigit => "invalid digit found in string"
  | .tooLarge => "number too large to fit in target type"
  | .tooSmall => "number too small to fit in target type"

/-- Reads digits after `n`; the first digit that is none, or that leads beyond `limit`, decides. -/
def readDigits (base limit : Nat) (beyond : Error) : Nat → List Char → Except Error Nat
  | n, [] => .ok n
  | n, c :: rest =>
    match value? base c with
    | none => .error .invalidDigit
    | some d =>
      if limit < n * base + d then .error beyond
      else readDigits base limit beyond (n * base + d) rest

def readSigned (base : Nat) (cs : List Char) : Except Error Int :=
  match cs with
  | [] => .error .empty
  | ['+'] | ['-'] => .error .invalidDigit
  | '-' :: ds => (fun n => -(n : Int)) <$> readDigits base Word.half .tooSmall 0 ds
  | '+' :: ds => Int.ofNat <$> readDigits base (Word.half - 1) .tooLarge 0 ds
  | ds => Int.ofNat <$> readDigits base (Word.half - 1) .tooLarge 0 ds

def readUnsigned (base limit : Nat) (cs : List Char) : Except Error Nat :=
  match cs with
  | [] => .error .empty
  | ['+'] | ['-'] => .error .invalidDigit
  | '+' :: ds => readDigits base limit .tooLarge 0 ds
  | ds => readDigits base limit .tooLarge 0 ds

def readInt64? (cs : List Char) : Option Int64 := (readSigned 10 cs).toOption.map Int64.ofInt

def digitOf (d : Nat) : Char :=
  if d < 10 then Char.ofNat ('0'.toNat + d) else Char.ofNat ('a'.toNat + (d - 10))

def digitsUp (base : Nat) : Nat → Nat → List Char
  | 0, _ => []
  | fuel + 1, n => if n = 0 then [] else digitOf (n % base) :: digitsUp base fuel (n / base)

def write (base : Nat) (n : Int) : List Char :=
  if n = 0 then ['0']
  else
    let ds := (digitsUp base (n.natAbs.log2 + 1) n.natAbs).reverse
    if n < 0 then '-' :: ds else ds

def startsHex (cs : List Char) : Bool :=
  match cs with
  | '0' :: x :: _ => x == 'x' || x == 'X'
  | _ => false

/-- The base and the digits that the start of a text announces: base 16 allows `0x` in front, and
base 0 tells hexadecimal, octal and decimal apart. -/
def announced (base : Nat) (cs : List Char) : Nat × List Char :=
  if base = 0 then
    if startsHex cs then (16, cs.drop 2)
    else
      match cs with
      | '0' :: c :: rest => (8, c :: rest)
      | _ => (10, cs)
  else if base = 16 ∧ startsHex cs then (16, cs.drop 2)
  else (base, cs)

def wrap (n : Int) : Int64 := Int64.ofInt n

/-- The longest start that is a number, after blanks and a sign; a magnitude beyond 64 bits is
brought to the end of the range before the sign is put in front. -/
def leading? (base : Nat) (text : List Char) : Option Int64 :=
  let cs := Blank.trimStart text
  let (negative, cs) := match cs with
    | '-' :: r => (true, r)
    | '+' :: r => (false, r)
    | r => (false, r)
  let (base, cs) := announced base cs
  let ds := cs.takeWhile (isDigit base)
  if ds.isEmpty then none
  else
    let n := ofDigits base ds
    let magnitude : Int :=
      if n < Word.half then n else if negative then Word.least else Word.greatest
    some (wrap (if negative then -magnitude else magnitude))

end EdgeCache.Integer
