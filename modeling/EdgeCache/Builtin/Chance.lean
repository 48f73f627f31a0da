import EdgeCache.Builtin.Basic

/-!
Functions that draw: from the generator of the request, or from one that a seed makes for one call.
-/

namespace EdgeCache.Builtin

open Arguments
open Value (ofChars ofBool ofInteger)

/-- True with the odds of a fraction; no number is drawn if a part of it is not positive. -/
def drawBool (numerator denominator : Int64) (g : Generator) : Bool × Generator :=
  if denominator ≤ 0 ∨ numerator ≤ 0 then (false, g)
  else
    let (n, g) := g.between 0 (denominator - 1)
    (n < numerator, g)

def drawInteger (a b : Int64) (g : Generator) : Int64 × Generator :=
  if a ≤ b then g.between a b else g.between b a

def drawChars (alphabet : Array Char) : Nat → Generator → List Char × Generator
  | 0, g => ([], g)
  | n + 1, g =>
    let (i, g) := g.below alphabet.size
    let (cs, g) := drawChars alphabet n g
    (alphabet.getD i ' ' :: cs, g)

def standardAlphabet : String := "ABCDEFGHIJKLMNOPQRSTUVWXYZabcdefghijklmnopqrstuvwxyz0123456789+/"

def drawText (length : Int64) (alphabet : List Char) (g : Generator) : List Char × Generator :=
  if alphabet.isEmpty then ([], g) else drawChars alphabet.toArray length.toInt.toNat g

def drawing (name : String) (required optional : List Parameter)
    (draw : List Value → Generator → Value × Generator) : Builtin :=
  make name required optional fun _ args => do
    let (v, g) := draw args (← get).generator
    modify fun c => { c with generator := g }
    return v

def seeded (args : List Value) (i : Nat) : Generator := .ofSeed (integer args i).toUInt64

def chance : List Builtin :=
  [drawing "randombool" [.integer, .integer] [] fun args g =>
      let (b, g) := drawBool (integer args 0) (integer args 1) g
      (ofBool b, g),
    plain "randombool_seeded" [.integer, .integer, .integer] [] fun args =>
      ofBool (drawBool (integer args 0) (integer args 1) (seeded args 2)).1,
    drawing "randomint" [.integer, .integer] [] fun args g =>
      let (n, g) := drawInteger (integer args 0) (integer args 1) g
      (ofInteger n, g),
    plain "randomint_seeded" [.integer, .integer, .integer] [] fun args =>
      ofInteger (drawInteger (integer args 0) (integer args 1) (seeded args 2)).1,
    drawing "randomstr" [.integer] [.string] fun args g =>
      let alphabet := ((args[1]?).bind Value.string?).getD standardAlphabet
      let (cs, g) := drawText (integer args 0) alphabet.toList g
      (ofChars cs, g)]

end EdgeCache.Builtin
