import EdgeCache.Json.Basic
import EdgeCache.Number.Decimal
import EdgeCache.Unicode.CodeSet

/-!
Reading JSON text. A number with a point or an exponent is a significand of 64 bits, scaled by
powers of ten; digits that do not fit only count. Nesting is limited.
-/

namespace EdgeCache.Json

def maxDepth : Nat := 127

def skipBlanks (cs : List Char) : List Char :=
  cs.dropWhile fun c => c == ' ' || c == '\n' || c == '\t' || c == '\r'

def takeDigits : Nat → Nat → List Char → Nat × Nat × List Char
  | n, count, [] => (n, count, [])
  | n, count, c :: rest =>
    match Decimal.digit? c with
    | some d =>
      if n * 10 + d < Word.count then takeDigits (n * 10 + d) (count + 1) rest
      else (n, count, c :: rest)
    | none => (n, count, c :: rest)

/-- Powers of ten beyond the table are reached in steps of the last one. -/
def scaleStep : Nat → Float → Int → Option Float
  | 0, x, _ => some x
  | fuel + 1, x, k =>
    if k.natAbs ≤ 308 then
      let power := Decimal.toFloat 1 k.natAbs
      if 0 ≤ k then
        let y := x * power
        if Binary64.isInfinite y then none else some y
      else some (x / power)
    else if Binary64.isZero x then some x
    else if 0 ≤ k then none
    else scaleStep fuel (x / Decimal.toFloat 1 308) (k + 308)

def scaled? (negative : Bool) (n : Nat) (k : Int) : Option Json :=
  (scaleStep 8 (Float.ofNat n) k).map fun x => .float (if negative then -x else x)

def maxExponent : Nat := twoTo 31 - 1

def readExponent (negative : Bool) (n : Nat) (k : Int) (cs : List Char) :
    Option (Json × List Char) :=
  let (down, cs) := match cs with
    | '-' :: rest => (true, rest)
    | '+' :: rest => (false, rest)
    | rest => (false, rest)
  let ds := cs.takeWhile Decimal.isDigit
  let rest := cs.drop ds.length
  if ds.isEmpty then none
  else
    let size := Decimal.ofDigits ds
    if maxExponent < size then
      if n ≠ 0 ∧ !down then none else some (.float (if negative then -0.0 else 0.0), rest)
    else
      let k := Binary64.clamp (-maxExponent - 1) maxExponent (if down then k - size else k + size)
      (scaled? negative n k).map (·, rest)

def isExponentMark (c : Char) : Bool := c == 'e' || c == 'E'

def readFraction (negative : Bool) (n : Nat) (k : Int) (cs : List Char) :
    Option (Json × List Char) :=
  let (n', count, rest) := takeDigits n 0 cs
  let dropped := rest.takeWhile Decimal.isDigit
  let rest := rest.drop dropped.length
  if count = 0 ∧ dropped.isEmpty then none
  else
    let k := k - count
    match rest with
    | c :: more =>
      if isExponentMark c then readExponent negative n' k more
      else (scaled? negative n' k).map (·, rest)
    | [] => (scaled? negative n' k).map (·, rest)

/-- Digits, without a zero in front of others. An integer that 64 bits do not hold is a float, and
so is a negative zero. -/
def readNumber (negative : Bool) (cs : List Char) : Option (Json × List Char) :=
  let all := cs.takeWhile Decimal.isDigit
  if all.isEmpty ∨ (1 < all.length ∧ all.head? = some '0') then none
  else
    let (n, count, _) := takeDigits 0 0 all
    let rest := cs.drop all.length
    let k : Int := all.length - count
    match rest with
    | '.' :: more => readFraction negative n k more
    | c :: more => if isExponentMark c then readExponent negative n k more else whole n k rest
    | [] => whole n k rest
where
  whole (n : Nat) (k : Int) (rest : List Char) : Option (Json × List Char) :=
    if k = 0 then
      if !negative then some (.int n, rest)
      else if n = 0 ∨ Word.half < n then some (.float (-(Float.ofNat n)), rest)
      else some (.int (-n), rest)
    else (scaled? negative n k).map (·, rest)

def hex4? (cs : List Char) : Option (Nat × List Char) :=
  let ds := cs.take 4
  if ds.length = 4 ∧ ds.all (fun c => (Unicode.hexValue? c).isSome) then
    some (Unicode.hexNumber ds, cs.drop 4)
  else none

def codeEscape? (cs : List Char) : Option (Char × List Char) := do
  let (hi, rest) ← hex4? cs
  if 0xD800 ≤ hi ∧ hi < 0xDC00 then
    match rest with
    | '\\' :: 'u' :: more =>
      let (lo, rest) ← hex4? more
      if 0xDC00 ≤ lo ∧ lo < 0xE000 then
        return (Char.ofNat (0x10000 + (hi - 0xD800) * 0x400 + (lo - 0xDC00)), rest)
      else none
    | _ => none
  else if 0xDC00 ≤ hi ∧ hi < 0xE000 then none
  else return (Char.ofNat hi, rest)

def readString : Nat → List Char → List Char → Option (String × List Char)
  | 0, _, _ => none
  | _, _, [] => none
  | fuel + 1, acc, c :: rest =>
    if c = '"' then some (String.ofList acc.reverse, rest)
    else if c = '\\' then
      match rest with
      | '"' :: r => readString fuel ('"' :: acc) r
      | '\\' :: r => readString fuel ('\\' :: acc) r
      | '/' :: r => readString fuel ('/' :: acc) r
      | 'b' :: r => readString fuel ('\x08' :: acc) r
      | 'f' :: r => readString fuel ('\x0c' :: acc) r
      | 'n' :: r => readString fuel ('\n' :: acc) r
      | 'r' :: r => readString fuel ('\r' :: acc) r
      | 't' :: r => readString fuel ('\t' :: acc) r
      | 'u' :: r =>
        match codeEscape? r with
        | some (d, r) => readString fuel (d :: acc) r
        | none => none
      | _ => none
    else if c.toNat < 0x20 then none
    else readString fuel (c :: acc) rest

mutual

def readValue : Nat → Nat → List Char → Option (Json × List Char)
  | 0, _, _ => none
  | fuel + 1, room, cs =>
    match skipBlanks cs with
    | '"' :: rest => (readString (rest.length + 1) [] rest).map fun (s, rest) => (.string s, rest)
    | '[' :: rest =>
      if room = 0 then none
      else
        match skipBlanks rest with
        | ']' :: rest => some (.array [], rest)
        | rest => (readItems fuel (room - 1) rest).map fun (xs, rest) => (.array xs, rest)
    | '\x7b' :: rest =>
      if room = 0 then none
      else
        match skipBlanks rest with
        | '\x7d' :: rest => some (.object [], rest)
        | rest => (readFields fuel (room - 1) rest).map fun (fs, rest) => (.object fs, rest)
    | 'n' :: 'u' :: 'l' :: 'l' :: rest => some (.null, rest)
    | 't' :: 'r' :: 'u' :: 'e' :: rest => some (.bool true, rest)
    | 'f' :: 'a' :: 'l' :: 's' :: 'e' :: rest => some (.bool false, rest)
    | '-' :: rest => readNumber true rest
    | rest => readNumber false rest

def readItems : Nat → Nat → List Char → Option (List Json × List Char)
  | 0, _, _ => none
  | fuel + 1, room, cs =>
    match readValue fuel room cs with
    | none => none
    | some (x, rest) =>
      match skipBlanks rest with
      | ',' :: rest => (readItems fuel room rest).map fun (xs, rest) => (x :: xs, rest)
      | ']' :: rest => some ([x], rest)
      | _ => none

def readFields : Nat → Nat → List Char → Option (List (String × Json) × List Char)
  | 0, _, _ => none
  | fuel + 1, room, cs =>
    match skipBlanks cs with
    | '"' :: rest =>
      match readString (rest.length + 1) [] rest with
      | none => none
      | some (name, rest) =>
        match skipBlanks rest with
        | ':' :: rest =>
          match readValue fuel room rest with
          | none => none
          | some (x, rest) =>
            match skipBlanks rest with
            | ',' :: rest =>
              (readFields fuel room rest).map fun (fs, rest) => ((name, x) :: fs, rest)
            | '\x7d' :: rest => some ([(name, x)], rest)
            | _ => none
        | _ => none
    | _ => none

end

def ofText? (text : String) : Option Json :=
  let cs := text.toList
  match readValue (2 * cs.length + 2) maxDepth cs with
  | some (j, rest) => if (skipBlanks rest).isEmpty then some j else none
  | none => none

end EdgeCache.Json
