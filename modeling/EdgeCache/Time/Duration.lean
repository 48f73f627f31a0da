import EdgeCache.Number.Decimal
import EdgeCache.Text.Blank

/-!
Relative times in whole milliseconds. The range is symmetric, so every duration has an opposite one.
-/

namespace EdgeCache

def Duration.limit : Nat := Word.half - 1

structure Duration where
  millis : Int
  inRange : millis.natAbs ≤ Duration.limit
  deriving DecidableEq

namespace Duration

def zero : Duration := ⟨0, by decide⟩

instance : Inhabited Duration := ⟨zero⟩

def greatest : Duration := ⟨limit, by decide⟩

def ofMillis? (n : Int) : Option Duration :=
  if h : n.natAbs ≤ limit then some ⟨n, h⟩ else none

def ofSeconds? (n : Int) : Option Duration := ofMillis? (n * 1000)

def add? (a b : Duration) : Option Duration := ofMillis? (a.millis + b.millis)

def sub? (a b : Duration) : Option Duration := ofMillis? (a.millis - b.millis)

def neg (d : Duration) : Duration := ⟨-d.millis, by simpa using d.inRange⟩

def seconds (d : Duration) : Int := d.millis.tdiv 1000

def toSeconds (d : Duration) : Float := Float.ofInt d.millis / 1000.0

def roundMillis (x : Float) : Int := Binary64.roundToInt64 x

/-- The duration of a number of seconds; what does not fit becomes the greatest one. -/
def ofFloatSeconds (x : Float) : Duration := (ofMillis? (roundMillis (x * 1000.0))).getD greatest

def text (d : Duration) : List Char :=
  Decimal.minus (d.millis < 0) (Decimal.withPoint 3 d.millis.natAbs)

def unit? (cs : List Char) : Option Float :=
  match String.ofList cs with
  | "ms" => some 1.0
  | "s" => some 1000.0
  | "m" => some 60000.0
  | "h" => some 3600000.0
  | "d" => some 86400000.0
  | "y" => some 31536000000.0
  | _ => none

def isLetter (c : Char) : Bool := c.isAlpha

def read? (text : String) : Option Duration := do
  let cs := Blank.trim text.toList
  let amount := cs.takeWhile (!isLetter ·)
  let name := cs.dropWhile (!isLetter ·)
  if name.isEmpty then none
  let x ← Decimal.read? amount
  let scale ← unit? name
  let millis := x * scale
  if Binary64.isFinite millis then ofMillis? (roundMillis millis) else none

end Duration

end EdgeCache
