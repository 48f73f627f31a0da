import EdgeCache.Number.Binary64

/-!
Doubles in decimal. Writing rounds the exact value: to a number of places, to a number of
significant digits, or to the fewest digits that read back. Reading takes an optional sign, digits
with an optional point, and an optional exponent, and rounds to nearest.
-/

namespace EdgeCache.Decimal

open Binary64

def digits (n : Nat) : List Char := Nat.toDigits 10 n

def digit? (c : Char) : Option Nat :=
  if '0' ≤ c ∧ c ≤ '9' then some (c.toNat - '0'.toNat) else none

def isDigit (c : Char) : Bool := '0' ≤ c && c ≤ '9'

def ofDigits (cs : List Char) : Nat := cs.foldl (fun n c => n * 10 + (digit? c).getD 0) 0

def padded (width n : Nat) : List Char :=
  let ds := digits n
  List.replicate (width - ds.length) '0' ++ ds

def minus (negative : Bool) (cs : List Char) : List Char := if negative then '-' :: cs else cs

def ofInt (n : Int) : List Char := minus (n < 0) (digits n.natAbs)

def withPoint (places units : Nat) : List Char :=
  digits (units / tenTo places) ++
    (if places = 0 then [] else '.' :: padded places (units % tenTo places))

def special : Shape → List Char
  | .nan => "NaN".toList
  | .infinite true => "-inf".toList
  | .infinite false => "inf".toList
  | .finite _ => []

/-- Rounded to `places` after the point, an exact half going to the even neighbour. The sign of a
negative zero stays. -/
def fixed (places : Nat) (x : Float) : List Char :=
  match shape x with
  | .finite p => minus p.negative (withPoint places (p.scaled (tenTo places) .halfEven))
  | s => special s

def ratio (p : Parts) : Nat × Nat :=
  match p.exponent with
  | .ofNat e => (p.mantissa * twoTo e, 1)
  | .negSucc e => (p.mantissa, twoTo (e + 1))

def inUnits (num den : Nat) (k : Int) (r : Rounding) : Nat :=
  match k with
  | .ofNat k => r.divide num (den * tenTo k)
  | .negSucc k => r.divide (num * tenTo (k + 1)) den

def leadingExponent (num den : Nat) : Nat → Int → Int
  | 0, k => k
  | fuel + 1, k => if inUnits num den k .down = 0 then leadingExponent num den fuel (k - 1) else k

/-- Starts from the number of digits of the integer part or, below one, from the last exponent that
the bits allow. -/
def exponent (num den : Nat) : Int :=
  let guess : Int := ((digits num).length : Int) - (digits den).length + 1
  leadingExponent num den 4 guess

def scientific (places : Nat) (x : Float) : List Char :=
  match shape x with
  | .finite p =>
    if p.mantissa = 0 then
      minus p.negative (withPoint places 0 ++ ['e', '0'])
    else
      let (num, den) := ratio p
      let k := exponent num den
      let n := inUnits num den (k - places) .halfEven
      let (n, k) := if n = tenTo (places + 1) then (tenTo places, k + 1) else (n, k)
      minus p.negative (withPoint places n ++ 'e' :: ofInt k)
  | s => special s

/-- Whether `n · 10^k` rounds to the double of magnitude `p`: it lies within half a step of it, the
ends included when the mantissa is even. The step below a power of two is half as long. -/
def readsBack (p : Parts) (n : Nat) (k : Int) : Bool :=
  let (den, num) := match k with
    | .ofNat k => (1, n * tenTo k)
    | .negSucc k => (tenTo (k + 1), n)
  -- compare in quarters of the step
  let scaleNum := match p.exponent with
    | .ofNat _ => 1
    | .negSucc e => twoTo (e + 1)
  let scaleDen := match p.exponent with
    | .ofNat e => twoTo e
    | .negSucc _ => 1
  let value := 4 * num * scaleNum
  let unit := den * scaleDen
  let below := if p.mantissa = twoTo 52 ∧ p.exponent ≠ -1074 then 1 else 2
  let lo := (4 * p.mantissa - below) * unit
  let hi := (4 * p.mantissa + 2) * unit
  if p.mantissa % 2 = 0 then lo ≤ value && value ≤ hi else lo < value && value < hi

def shortestFrom (p : Parts) (num den : Nat) (top : Int) : Nat → Nat → Nat × Int
  | 0, count => (inUnits num den (top - count) .halfEven, top - count)
  | fuel + 1, count =>
    let k := top - count
    let n := inUnits num den k .halfEven
    if readsBack p n k then (n, k)
    else
      let down := inUnits num den k .down
      if readsBack p down k then (down, k)
      else if readsBack p (down + 1) k then (down + 1, k)
      else shortestFrom p num den top fuel (count + 1)

def dropZeros : Nat → Nat → Int → Nat × Int
  | 0, n, k => (n, k)
  | fuel + 1, n, k => if n % 10 = 0 ∧ n ≠ 0 then dropZeros fuel (n / 10) (k + 1) else (n, k)

def shortest (p : Parts) : Nat × Int :=
  let (num, den) := ratio p
  let (n, k) := shortestFrom p num den (exponent num den) 17 0
  dropZeros 20 n k

/-- The shortest text that reads back, as a number of a data format: with a point or an exponent,
positional when the point falls within sixteen digits or after at most four zeros. -/
def shortestText (x : Float) : List Char :=
  match shape x with
  | .finite p =>
    if p.mantissa = 0 then minus p.negative ['0', '.', '0']
    else
      let (n, k) := shortest p
      let ds := digits n
      let point : Int := ds.length + k
      minus p.negative <|
        if 0 ≤ k ∧ point ≤ 16 then ds ++ List.replicate k.toNat '0' ++ ['.', '0']
        else if 0 < point ∧ point ≤ 16 then ds.take point.toNat ++ '.' :: ds.drop point.toNat
        else if -5 < point ∧ point ≤ 0 then
          '0' :: '.' :: List.replicate (-point).toNat '0' ++ ds
        else
          (match ds with
            | [d] => [d]
            | d :: more => d :: '.' :: more
            | [] => []) ++ 'e' :: ofInt (point - 1)
  | s => special s

def toFloat (n : Nat) (k : Int) : Float :=
  if n = 0 then 0.0
  else
    let top : Int := (digits n).length + k
    if 400 < top then infinity
    else if top < -400 then 0.0
    else if k < 0 then Float.ofScientific n true (-k).toNat
    else Float.ofScientific n false k.toNat

/-- An unsigned numeral: digits, or digits around a point on at least one side of it, then an
exponent. Gives the number `n · 10^k`. -/
def numeral? (cs : List Char) : Option (Nat × Int) :=
  let whole := cs.takeWhile isDigit
  let rest := cs.dropWhile isDigit
  let (fraction, rest) := match rest with
    | '.' :: more => (more.takeWhile isDigit, more.dropWhile isDigit)
    | _ => ([], rest)
  if whole.isEmpty && fraction.isEmpty then none
  else
    let n := ofDigits (whole ++ fraction)
    let k : Int := -fraction.length
    match rest with
    | [] => some (n, k)
    | e :: more =>
      if e == 'e' || e == 'E' then
        let (negative, ds) := match more with
          | '-' :: ds => (true, ds)
          | '+' :: ds => (false, ds)
          | ds => (false, ds)
        if ds.isEmpty || !ds.all isDigit then none
        else
          let size : Int := ofDigits ds
          some (n, if negative then k - size else k + size)
      else none

def read? (cs : List Char) : Option Float :=
  let (negative, body) := match cs with
    | '-' :: r => (true, r)
    | '+' :: r => (false, r)
    | r => (false, r)
  let magnitude : Option Float :=
    match String.ofList (body.map Char.toLower) with
    | "inf" | "infinity" => some infinity
    | "nan" => some nan
    | _ => (numeral? body).map fun (n, k) => toFloat n k
  magnitude.map fun x => if negative then -x else x

end EdgeCache.Decimal
