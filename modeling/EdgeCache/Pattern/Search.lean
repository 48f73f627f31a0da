import EdgeCache.Pattern.Machine

/-!
Searching a text for a pattern. The leftmost match is found, and of those that begin there the one
that the order of the forks prefers. No step is tried twice at the same place, so a search takes at
most as many turns as there are pairs of the two.
-/

namespace EdgeCache.Pattern

open Unicode

def isWordChar (ascii : Bool) (c : Char) : Bool :=
  if ascii then asciiWord.contains c else Property.word.contains c

def Look.holds (l : Look) (text : Array Char) (place : Nat) : Bool :=
  let before := if place = 0 then none else text[place - 1]?
  let after := text[place]?
  let word (ascii : Bool) (c : Option Char) : Bool := c.any (isWordChar ascii)
  match l with
  | start => before.isNone
  | stop => after.isNone
  | lineStart false => before.all (· == '\n')
  | lineStart true => before.all (· == '\n') || (before == some '\r' && after != some '\n')
  | lineEnd false => after.all (· == '\n')
  | lineEnd true => after.all (· == '\r') || (after == some '\n' && before != some '\r')
  | wordEdge a => word a before != word a after
  | noWordEdge a => word a before == word a after
  | wordStart a => !word a before && word a after
  | wordEnd a => word a before && !word a after
  | wordStartHalf a => !word a before
  | wordEndHalf a => !word a after

abbrev Marks := Array (Option Nat)

structure Job where
  step : Nat
  place : Nat
  marks : Marks

def Job.run (j : Job) (s : Step) (text : Array Char) : Option Marks × List Job :=
  match s with
  | .accept => (some j.marks, [])
  | .one set next =>
    match text[j.place]? with
    | some c => if set.contains c then (none, [⟨next, j.place + 1, j.marks⟩]) else (none, [])
    | none => (none, [])
  | .look l next => if l.holds text j.place then (none, [⟨next, j.place, j.marks⟩]) else (none, [])
  | .mark slot next => (none, [⟨next, j.place, j.marks.set! slot (some j.place)⟩])
  | .fork first second => (none, [⟨first, j.place, j.marks⟩, ⟨second, j.place, j.marks⟩])

def explore (steps : Array Step) (text : Array Char) :
    Nat → List Job → Array Bool → Option Marks × Array Bool
  | 0, _, seen => (none, seen)
  | _ + 1, [], seen => (none, seen)
  | fuel + 1, j :: jobs, seen =>
    let key := j.step * (text.size + 1) + j.place
    if seen.getD key true then explore steps text fuel jobs seen
    else
      let seen := seen.set! key true
      match steps[j.step]? with
      | none => explore steps text fuel jobs seen
      | some s =>
        match j.run s text with
        | (some marks, _) => (some marks, seen)
        | (none, next) => explore steps text fuel (next ++ jobs) seen

/-- Each turn takes one job, and each of the pairs that can be seen leaves two at most. -/
def turns (p : Pattern) (text : Array Char) : Nat := 2 * (p.steps.size * (text.size + 1)) + 2

def findFrom (p : Pattern) (text : Array Char) : Nat → Nat → Array Bool → Option Marks
  | 0, _, _ => none
  | count + 1, place, seen =>
    let job : Job := ⟨p.entry, place, Array.replicate (2 * p.groups) none⟩
    match explore p.steps text (turns p text) [job] seen with
    | (some marks, _) => some marks
    | (none, seen) => findFrom p text count (place + 1) seen

structure Span where
  start : Nat
  stop : Nat
  deriving Repr, DecidableEq

structure Match where
  span : Span
  groups : List (Option Span)

def Match.ofMarks? (m : Marks) : Option Match :=
  let span? (n : Nat) : Option Span :=
    match m[2 * n]?.join, m[2 * n + 1]?.join with
    | some a, some b => some ⟨a, b⟩
    | _, _ => none
  (span? 0).map fun s => ⟨s, (List.range (m.size / 2)).map span?⟩

def find? (p : Pattern) (text : Array Char) (place : Nat) : Option Match :=
  (findFrom p text (text.size + 1 - place) place
    (Array.replicate (p.steps.size * (text.size + 1)) false)).bind Match.ofMarks?

def isMatch (p : Pattern) (text : String) : Bool := (p.find? text.toList.toArray 0).isSome

def Span.text (s : Span) (text : Array Char) : List Char := (text.extract s.start s.stop).toList

def Match.texts (m : Match) (text : Array Char) : List String :=
  m.groups.map fun g => (g.map fun s => String.ofList (s.text text)).getD ""

def captures? (p : Pattern) (text : String) : Option (List String) :=
  let cs := text.toList.toArray
  (p.find? cs 0).map fun m => m.texts cs

/-- The matches from a place on, one behind the other, so many at most. An empty match that touches
the one before is passed over. -/
def matchesFrom (p : Pattern) (text : Array Char) : Nat → Nat → Option Nat → List Match
  | 0, _, _ => []
  | fuel + 1, place, last =>
    match p.find? text place with
    | none => []
    | some m =>
      if m.span.start = m.span.stop ∧ some m.span.stop = last then
        match p.find? text (place + 1) with
        | none => []
        | some m => m :: matchesFrom p text fuel m.span.stop (some m.span.stop)
      else m :: matchesFrom p text fuel m.span.stop (some m.span.stop)

def allMatches (p : Pattern) (text : Array Char) : List Match :=
  matchesFrom p text (2 * text.size + 2) 0 none

end EdgeCache.Pattern
