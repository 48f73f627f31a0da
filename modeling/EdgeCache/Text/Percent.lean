import EdgeCache.Text.Hex
import EdgeCache.Text.Utf8

/-!
Bytes of a text escaped as `%` and two hexadecimal digits: the coding of URLs, which keeps the
unreserved characters, and that of forms, which writes a blank as `+`.
-/

namespace EdgeCache.Percent

def isAlphanumeric (n : Nat) : Bool :=
  (48 ≤ n && n ≤ 57) || (65 ≤ n && n ≤ 90) || (97 ≤ n && n ≤ 122)

def isUnreserved (b : UInt8) : Bool :=
  let n := b.toNat
  isAlphanumeric n || n == 45 || n == 95 || n == 46 || n == 126

def isFormSafe (b : UInt8) : Bool :=
  let n := b.toNat
  isAlphanumeric n || n == 42 || n == 45 || n == 46 || n == 95

def escape (b : UInt8) : List Char := '%' :: Hex.pair true b

def encodeByte (b : UInt8) : List Char :=
  if isUnreserved b then [Char.ofNat b.toNat] else escape b

def encode (s : List Char) : List Char := (Utf8.encode s).flatMap encodeByte

def formByte (b : UInt8) : List Char :=
  if b.toNat = 32 then ['+'] else if isFormSafe b then [Char.ofNat b.toNat] else escape b

def encodeForm (s : List Char) : List Char := (Utf8.encode s).flatMap formByte

/-- An escape that is not complete stands for itself. -/
def decodeBytes : List UInt8 → List UInt8
  | [] => []
  | b :: rest =>
    if b.toNat = 37 then
      match rest with
      | h :: l :: more =>
        match Hex.value? h, Hex.value? l with
        | some hi, some lo => UInt8.ofNat (hi * 16 + lo) :: decodeBytes more
        | _, _ => b :: decodeBytes (h :: l :: more)
      | rest => b :: decodeBytes rest
    else b :: decodeBytes rest

def decode (s : List Char) : List Char := Utf8.decode (decodeBytes (Utf8.encode s))

end EdgeCache.Percent
