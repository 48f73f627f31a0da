/-!
Texts as bytes. Decoding never fails: the longest start of a character that breaks off, or a byte
that starts none, becomes one replacement character.
-/

namespace EdgeCache.Utf8

def encode (s : List Char) : List UInt8 := s.flatMap String.utf8EncodeChar

def size (s : List Char) : Nat := (encode s).length

def replacement : Char := Char.ofNat 0xFFFD

def within (lo hi : Nat) (b : UInt8) : Bool := lo ≤ b.toNat && b.toNat ≤ hi

def isContinuation : UInt8 → Bool := within 0x80 0xBF

def payload (b : UInt8) : Nat := b.toNat % 64

/-- The bounds of the second byte of a character of three bytes, which leave out overlong forms and
surrogates. -/
def secondOfThree (b : UInt8) : UInt8 → Bool :=
  if b.toNat = 0xE0 then within 0xA0 0xBF
  else if b.toNat = 0xED then within 0x80 0x9F
  else isContinuation

/-- The bounds of the second byte of a character of four bytes, which leave out overlong forms and
what lies beyond the last code point. -/
def secondOfFour (b : UInt8) : UInt8 → Bool :=
  if b.toNat = 0xF0 then within 0x90 0xBF
  else if b.toNat = 0xF4 then within 0x80 0x8F
  else isContinuation

def decode : List UInt8 → List Char
  | [] => []
  | b :: rest =>
    if b.toNat < 0x80 then Char.ofNat b.toNat :: decode rest
    else if within 0xC2 0xDF b then
      match rest with
      | [] => [replacement]
      | c :: after =>
        if isContinuation c then Char.ofNat (b.toNat % 32 * 64 + payload c) :: decode after
        else replacement :: decode (c :: after)
    else if within 0xE0 0xEF b then
      match rest with
      | [] => [replacement]
      | c :: after =>
        if secondOfThree b c then
          match after with
          | [] => [replacement]
          | d :: later =>
            if isContinuation d then
              Char.ofNat (b.toNat % 16 * 4096 + payload c * 64 + payload d) :: decode later
            else replacement :: decode (d :: later)
        else replacement :: decode (c :: after)
    else if within 0xF0 0xF4 b then
      match rest with
      | [] => [replacement]
      | c :: after =>
        if secondOfFour b c then
          match after with
          | [] => [replacement]
          | d :: later =>
            if isContinuation d then
              match later with
              | [] => [replacement]
              | e :: last =>
                if isContinuation e then
                  Char.ofNat (b.toNat % 8 * 262144 + payload c * 4096 + payload d * 64 + payload e)
                    :: decode last
                else replacement :: decode (e :: last)
            else replacement :: decode (d :: later)
        else replacement :: decode (c :: after)
    else replacement :: decode rest

def ofString (s : String) : List UInt8 := encode s.toList

def toString (bytes : List UInt8) : String := String.ofList (decode bytes)

end EdgeCache.Utf8
