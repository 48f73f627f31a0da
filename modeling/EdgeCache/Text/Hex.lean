/-!
Bytes as pairs of hexadecimal digits.
-/

namespace EdgeCache.Hex

def digitOf (upper : Bool) (n : Nat) : Char :=
  if n < 10 then Char.ofNat ('0'.toNat + n)
  else Char.ofNat ((if upper then 'A'.toNat else 'a'.toNat) + (n - 10))

def pair (upper : Bool) (b : UInt8) : List Char :=
  [digitOf upper (b.toNat / 16), digitOf upper (b.toNat % 16)]

def encode (bytes : List UInt8) : List Char := bytes.flatMap (pair false)

def value? (b : UInt8) : Option Nat :=
  let n := b.toNat
  if 48 ≤ n ∧ n ≤ 57 then some (n - 48)
  else if 97 ≤ n ∧ n ≤ 102 then some (n - 87)
  else if 65 ≤ n ∧ n ≤ 70 then some (n - 55)
  else none

inductive Error where
  | oddLength
  | invalid (byte : UInt8) (index : Nat)
  deriving Repr, DecidableEq

def Error.message : Error → String
  | .oddLength => "Odd number of digits"
  | .invalid b i =>
    String.ofList ("Invalid character ".toList ++ shown (Char.ofNat b.toNat) ++
      " at position ".toList ++ Nat.toDigits 10 i)
where
  shown (c : Char) : List Char :=
    let body :=
      if c.toNat = 39 then ['\\', c]
      else if c == '\\' then ['\\', '\\']
      else if c == '\n' then ['\\', 'n']
      else if c == '\r' then ['\\', 'r']
      else if c == '\t' then ['\\', 't']
      else if c.toNat = 0 then ['\\', '0']
      else if c.toNat < 0x20 ∨ (0x7f ≤ c.toNat ∧ c.toNat < 0xa1) ∨ c.toNat = 0xad then
        ['\\', 'u', '\x7b'] ++ Nat.toDigits 16 c.toNat ++ ['\x7d']
      else [c]
    Char.ofNat 39 :: body ++ [Char.ofNat 39]

def decodePairs (index : Nat) : List UInt8 → Except Error (List UInt8)
  | a :: b :: rest =>
    match value? a, value? b with
    | some hi, some lo => (UInt8.ofNat (hi * 16 + lo) :: ·) <$> decodePairs (index + 2) rest
    | none, _ => .error (.invalid a index)
    | _, none => .error (.invalid b (index + 1))
  | _ => .ok []

def decode (digits : List UInt8) : Except Error (List UInt8) :=
  if digits.length % 2 = 1 then .error .oddLength else decodePairs 0 digits

end EdgeCache.Hex
