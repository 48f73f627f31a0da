import EdgeCache.Builtin.Basic
import EdgeCache.Text.Integer

/-!
Functions between texts and numbers or addresses.
-/

namespace EdgeCache.Builtin

open Arguments
open Value (ofString ofChars ofBool ofFloat ofInteger ofIp)

/-- How far a text looks like a decimal number. `before` is the character before, `dot` and
`exponent` tell whether one was seen. -/
def numberSpan (first dot exponent : Bool) (before : Char) : List Char → List Char
  | [] => []
  | c :: rest =>
    if Decimal.isDigit c then c :: numberSpan false dot exponent c rest
    else if c == '+' || c == '-' then
      if first || before == 'e' || before == 'E' then c :: numberSpan false dot exponent c rest
      else []
    else if c == '.' && !dot && !exponent then c :: numberSpan false true exponent c rest
    else if (c == 'e' || c == 'E') && !exponent && !first then c :: numberSpan false dot true c rest
    else []

def longestNumber : List Char → Float
  | [] => 0.0
  | c :: rest =>
    match Decimal.read? (c :: rest).reverse with
    | some x => x
    | none => longestNumber rest

def leadingFloat (text : List Char) : Float :=
  longestNumber (numberSpan true false false ' ' (Blank.trimStart text)).reverse

def leadingInteger (base : Nat) (text : List Char) : Int64 := (Integer.leading? base text).getD 0

def isBase (n : Int64) : Bool := 2 ≤ n && n ≤ 36

def integerText (args : List Value) : Except String Value :=
  let base := (integer? args 1).getD 10
  if isBase base then .ok (ofChars (Integer.write base.toInt.toNat (integer args 0).toInt))
  else .error s!"invalid base {base.toInt}"

def readInBase : Body := fun _ args => do
  let base := integer args 1
  if base = 0 ∨ isBase base then return ofInteger (leadingInteger base.toInt.toNat (chars args 0))
  else
    modify (·.setSlot .lastError (ofString "EINVAL"))
    return ofInteger 0

/-- One part of a loose address: decimal, octal after a zero, or hexadecimal after `0x`. -/
def addressPart? (part : List Char) : Option Nat :=
  let limit := Word.count - 1
  let read (base : Nat) (cs : List Char) : Option Nat :=
    (Integer.readUnsigned base limit cs).toOption
  if Integer.startsHex part then read 16 (part.drop 2)
  else
    match part with
    | '0' :: c :: rest => read 8 (c :: rest)
    | _ => read 10 part

def looseAddress? (text : List Char) : Option Address := do
  let parts ← (Pieces.splitOn '.' text).mapM addressPart?
  let last ← parts.getLast?
  let head := parts.dropLast
  if 3 < head.length ∨ head.any (255 < ·) then none
  let room := twoTo (8 * (4 - head.length))
  if room ≤ last then none
  else some (.v4 (BitVec.ofNat 32 (head.foldl (fun n p => n * 256 + p) 0 * room + last)))

def anyAddress? (text : String) : Option Address :=
  match Address.read? text with
  | some a => some a
  | none => looseAddress? text.toList

def firstAddress (read : String → Option Address) (args : List Value) : Except String Value :=
  match read (string args 0), read (string args 1) with
  | some a, _ => .ok (ofIp a)
  | none, some a => .ok (ofIp a)
  | none, none => .error "neither address nor fallback is a valid IP"

def conversions : List Builtin :=
  [plain "std.atoi" [.string] [] fun args => ofInteger (leadingInteger 10 (chars args 0)),
    plain "std.atof" [.string] [] fun args => ofFloat (leadingFloat (chars args 0)),
    failing "std.itoa" [.integer] [.integer] integerText,
    make "std.strtol" [.string, .integer] [] readInBase,
    failing "std.str2ip" [.string, .string] [] (firstAddress Address.read?),
    failing "std.anystr2ip" [.string, .string] [] (firstAddress anyAddress?),
    plain "std.ip2str" [.ip] [] fun args => ofString (((ip? args 0).map Address.text).getD ""),
    plain "addr.is_ipv4" [.ip] [] fun args => ofBool ((ip? args 0).any Address.isV4),
    plain "addr.is_ipv6" [.ip] [] fun args => ofBool ((ip? args 0).any fun a => !a.isV4)]

end EdgeCache.Builtin
