/-!
Sets of code points as ascending intervals, and their written form: words in hexadecimal,
`41-5a` for an interval and `aa` for a single code point.
-/

namespace EdgeCache.Unicode

def lastCode : Nat := 0x10FFFF

/-- A set of code points: both ends of an interval belong to it, and the intervals are ascending
and do not touch. -/
structure CodeSet where
  intervals : Array (Nat × Nat)
  deriving Inhabited

namespace CodeSet

def empty : CodeSet := ⟨#[]⟩

def merge : List (Nat × Nat) → List (Nat × Nat)
  | [] => []
  | (lo, hi) :: rest =>
    match merge rest with
    | [] => [(lo, hi)]
    | (lo', hi') :: more =>
      if lo' ≤ hi + 1 then (lo, max hi hi') :: more else (lo, hi) :: (lo', hi') :: more

/-- Merging looks one interval ahead only, so intervals inside an earlier one are drawn into it
first. -/
def spread : Nat → List (Nat × Nat) → List (Nat × Nat)
  | _, [] => []
  | top, (lo, hi) :: rest =>
    let hi' := max top hi
    if lo ≤ top then (lo, hi') :: spread hi' rest else (lo, hi) :: spread hi rest

def ofIntervals (xs : List (Nat × Nat)) : CodeSet :=
  let kept := xs.filter fun r => r.1 ≤ r.2
  ⟨(merge (spread 0 (kept.mergeSort fun a b => a.1 < b.1 || (a.1 == b.1 && a.2 ≤ b.2)))).toArray⟩

def range (lo hi : Nat) : CodeSet := ofIntervals [(lo, hi)]

def singleton (n : Nat) : CodeSet := ⟨#[(n, n)]⟩

/-- Binary search between `lo` and `hi`, which halves at each step. -/
def containsFrom (xs : Array (Nat × Nat)) (n : Nat) : Nat → Nat → Nat → Bool
  | 0, _, _ => false
  | fuel + 1, lo, hi =>
    if lo < hi then
      let mid := (lo + hi) / 2
      match xs[mid]? with
      | none => false
      | some (a, b) =>
        if n < a then containsFrom xs n fuel lo mid
        else if b < n then containsFrom xs n fuel (mid + 1) hi
        else true
    else false

def containsCode (s : CodeSet) (n : Nat) : Bool :=
  containsFrom s.intervals n (s.intervals.size + 1) 0 s.intervals.size

def contains (s : CodeSet) (c : Char) : Bool := s.containsCode c.toNat

def union (a b : CodeSet) : CodeSet := ofIntervals (a.intervals.toList ++ b.intervals.toList)

def unions (xs : List CodeSet) : CodeSet := ofIntervals (xs.flatMap fun s => s.intervals.toList)

def gaps : Nat → List (Nat × Nat) → List (Nat × Nat)
  | start, [] => if start ≤ lastCode then [(start, lastCode)] else []
  | start, (lo, hi) :: rest =>
    if start < lo then (start, lo - 1) :: gaps (hi + 1) rest else gaps (hi + 1) rest

def complement (s : CodeSet) : CodeSet := ⟨(gaps 0 s.intervals.toList).toArray⟩

def inter (a b : CodeSet) : CodeSet := (a.complement.union b.complement).complement

def diff (a b : CodeSet) : CodeSet := a.inter b.complement

def symmDiff (a b : CodeSet) : CodeSet := (a.diff b).union (b.diff a)

def bounds? (s : CodeSet) : Option (Nat × Nat) := do
  let first ← s.intervals[0]?
  let last ← s.intervals.back?
  return (first.1, last.2)

end CodeSet

def hexValue? (c : Char) : Option Nat :=
  if '0' ≤ c ∧ c ≤ '9' then some (c.toNat - '0'.toNat)
  else if 'a' ≤ c ∧ c ≤ 'f' then some (c.toNat - 'a'.toNat + 10)
  else if 'A' ≤ c ∧ c ≤ 'F' then some (c.toNat - 'A'.toNat + 10)
  else none

def hexNumber (cs : List Char) : Nat :=
  cs.foldl (fun n c => n * 16 + (hexValue? c).getD 0) 0

def wordsBy (p : Char → Bool) (cs : List Char) : List (List Char) :=
  let step := fun (c : Char) (acc : List (List Char)) =>
    if p c then [] :: acc
    else match acc with
      | [] => [[c]]
      | w :: ws => (c :: w) :: ws
  (cs.foldr step [[]]).filter fun w => !w.isEmpty

def tableWords (table : String) : List (List Char) :=
  wordsBy (fun c => c == ' ' || c == '\n') table.toList

def CodeSet.ofTable (table : String) : CodeSet :=
  ⟨((tableWords table).map fun w =>
    match wordsBy (· == '-') w with
    | [lo, hi] => (hexNumber lo, hexNumber hi)
    | _ => (hexNumber w, hexNumber w)).toArray⟩

end EdgeCache.Unicode
