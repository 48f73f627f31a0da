import EdgeCache.Pattern.Reader
import EdgeCache.Text.Utf8
import EdgeCache.Value.Error

/-!
Patterns as machines: numbered steps that consume a character, test a place, mark one, or fork,
where the first branch of a fork is preferred.
-/

namespace EdgeCache

namespace Pattern

open Unicode (CodeSet)

inductive Step where
  | one (set : CodeSet) (next : Nat)
  | look (l : Look) (next : Nat)
  | mark (slot next : Nat)
  | fork (first second : Nat)
  | accept

abbrev Steps := Array Step

def add (s : Step) (steps : Steps) : Nat × Steps := (steps.size, steps.push s)

/-- A fork whose preferred branch is the body of a repetition if it is greedy. -/
def branch (greedy : Bool) (body next : Nat) : Step :=
  if greedy then .fork body next else .fork next body

abbrev Body := Nat → Steps → Nat × Steps

def copies (body : Body) : Nat → Body
  | 0, next, steps => (next, steps)
  | n + 1, next, steps =>
    let (entry, steps) := copies body n next steps
    body entry steps

def options (body : Body) (greedy : Bool) (next : Nat) : Nat → Steps → Nat × Steps
  | 0, steps => (next, steps)
  | n + 1, steps =>
    let (after, steps) := options body greedy next n steps
    let (entry, steps) := body after steps
    add (branch greedy entry next) steps

def loop (body : Body) (greedy : Bool) (next : Nat) (steps : Steps) : (Nat × Nat) × Steps :=
  let (turn, steps) := add .accept steps
  let (entry, steps) := body turn steps
  ((entry, turn), steps.set! turn (branch greedy entry next))

def build : Tree → Body
  | .empty, next, steps => (next, steps)
  | .look l, next, steps => add (.look l next) steps
  | .one s, next, steps => add (.one s next) steps
  | .group n t, next, steps =>
    let (close, steps) := add (.mark (2 * n + 1) next) steps
    let (entry, steps) := build t close steps
    add (.mark (2 * n) entry) steps
  | .seq a b, next, steps =>
    let (entry, steps) := build b next steps
    build a entry steps
  | .either a b, next, steps =>
    let (second, steps) := build b next steps
    let (first, steps) := build a next steps
    add (.fork first second) steps
  | .repeated t least most greedy, next, steps =>
    match most with
    | some m =>
      let (entry, steps) := options (build t) greedy next (m - least) steps
      copies (build t) least entry steps
    | none =>
      let ((entry, turn), steps) := loop (build t) greedy next steps
      match least with
      | 0 => if t.mayBeEmpty then add (branch greedy entry next) steps else (turn, steps)
      | n + 1 => copies (build t) n entry steps

/-- The room that a set takes: by its intervals, more beyond ASCII. -/
def setCost (s : CodeSet) : Nat :=
  match s.bounds? with
  | none => 32
  | some (lo, hi) =>
    if lo = hi then 32 * Utf8.size [Char.ofNat lo]
    else if hi < 0x80 then 64 + 8 * s.intervals.size
    else 400 + 64 * s.intervals.size

def Tree.cost : Tree → Nat
  | .empty => 32
  | .look _ => 32
  | .one s => setCost s
  | .group _ t => 64 + t.cost
  | .seq a b => a.cost + b.cost
  | .either a b => 68 + a.cost + b.cost
  | .repeated t least most _ =>
    match most with
    | some m => least * t.cost + (m - least) * (t.cost + 40) + 32
    | none => max least 1 * t.cost + 72

def costLimit : Nat := 10485760

end Pattern

/-- A pattern that is ready to search. `groups` counts its groups, the whole match included. -/
structure Pattern where
  steps : Array Pattern.Step
  entry : Nat
  groups : Nat

namespace Pattern

def ofTree (t : Tree) : Pattern :=
  let (finish, steps) := add .accept #[]
  let (entry, steps) := build (.group 0 t) finish steps
  ⟨steps, entry, t.lastGroup + 1⟩

def ofText (text : String) : Except PatternError Pattern :=
  match Tree.ofText text with
  | .error f => .error (.malformed f.message)
  | .ok t => if costLimit < t.cost then .error (.tooLarge costLimit) else .ok (ofTree t)

end Pattern

end EdgeCache
