import EdgeCache.Builtin.Basic

/-!
Functions on numbers. An argument outside the domain gives no number and leaves the mark `EDOM`; a
result that is infinite though the argument is not leaves the mark `ERANGE`.
-/

namespace EdgeCache.Builtin

open Arguments
open Value (ofString ofBool ofFloat)

abbrev Marked := Float × Option String

def unmarked (x : Float) : Marked := (x, none)

def outOfDomain : Marked := (Binary64.nan, some "EDOM")

def ranged (x y : Float) : Marked :=
  if Binary64.isFinite x && Binary64.isInfinite y then (y, some "ERANGE") else (y, none)

def squareRoot (x : Float) : Marked := if x < 0.0 then outOfDomain else unmarked x.sqrt

def logarithm (f : Float → Float) (x : Float) : Marked :=
  if x < 0.0 then outOfDomain
  else if x == 0.0 then (-Binary64.infinity, some "ERANGE")
  else unmarked (f x)

def circular (f : Float → Float) (x : Float) : Marked :=
  if Binary64.isInfinite x then outOfDomain else unmarked (f x)

def inverse (f : Float → Float) (x : Float) : Marked :=
  if Binary64.isNaN x then unmarked Binary64.nan
  else if -1.0 ≤ x && x ≤ 1.0 then unmarked (f x)
  else outOfDomain

def onFloat (name : String) (f : Float → Marked) : Builtin :=
  make name [.float] [] fun _ args => do
    match f (float args 0) with
    | (y, none) => return ofFloat y
    | (y, some mark) =>
      modify (·.setSlot .lastError (ofString mark))
      return ofFloat y

def onFloatIs (name : String) (p : Float → Bool) : Builtin :=
  plain name [.float] [] fun args => ofBool (p (float args 0))

def math : List Builtin :=
  [onFloat "math.sqrt" squareRoot,
    onFloat "math.exp" fun x => ranged x x.exp,
    onFloat "math.exp2" fun x => ranged x x.exp2,
    onFloat "math.log" (logarithm Float.log),
    onFloat "math.log2" (logarithm Float.log2),
    onFloat "math.log10" (logarithm Float.log10),
    onFloat "math.sin" (circular Float.sin),
    onFloat "math.cos" (circular Float.cos),
    onFloat "math.tan" (circular Float.tan),
    onFloat "math.asin" (inverse Float.asin),
    onFloat "math.acos" (inverse Float.acos),
    onFloat "math.atan" fun x => unmarked x.atan,
    onFloat "math.round" fun x => unmarked (Binary64.round x),
    onFloat "math.floor" fun x => unmarked (Binary64.floor x),
    onFloat "math.ceil" fun x => unmarked (Binary64.ceil x),
    onFloat "math.trunc" fun x => unmarked (Binary64.truncate x),
    onFloatIs "math.is_nan" Binary64.isNaN,
    onFloatIs "math.is_infinite" Binary64.isInfinite,
    onFloatIs "math.is_finite" Binary64.isFinite]

end EdgeCache.Builtin
