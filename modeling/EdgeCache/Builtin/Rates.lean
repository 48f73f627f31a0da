import EdgeCache.Builtin.Basic

/-!
Functions that limit rates: counts of entries, and boxes in which an entry stays until a point in
time.
-/

namespace EdgeCache.Builtin

open Arguments
open Value (ofBool ofInteger)

def windows : List Int64 := [1, 10, 60]

def requireCounter (d : Declarations) (function counter : String) : Except FunctionError Unit :=
  if (d.ratecounter? counter).isSome then .ok ()
  else .error (.failed function s!"ratecounter {counter} is not declared")

def requireBox (d : Declarations) (function box : String) : Except FunctionError Unit :=
  if (d.penaltybox? box).isSome then .ok ()
  else .error (.failed function s!"penaltybox {box} is not declared")

def saturatingSum (a b : Int64) : Int64 :=
  Int64.ofInt (max Int64.minValue.toInt (min Int64.maxValue.toInt (a.toInt + b.toInt)))

def count (c : Context) (counter entry : String) : Int64 :=
  (((c.counts.get? counter).getD .empty).get? entry).getD 0

def increment (counter entry : String) (delta : Int64) :
    EStateM (Stop FunctionError) Context Int64 := do
  let n := saturatingSum (count (← get) counter entry) delta
  modify fun c =>
    { c with counts := c.counts.put counter (((c.counts.get? counter).getD .empty).put entry n) }
  return n

/-- An expiry beyond the range of times is the last point in time. -/
def expiry (now : Instant) (ttl : Duration) : Instant := (now.add? ttl).getD .last

def penalize (now : Instant) (c : Context) (box entry : String) (ttl : Duration) : Context :=
  let entries := (c.penalties.get? box).getD .empty
  { c with penalties := c.penalties.put box (entries.put entry (expiry now ttl)) }

def isPenalized (now : Instant) (c : Context) (box entry : String) : Bool :=
  (((c.penalties.get? box).getD .empty).get? entry).any fun t => now.lt t

def checkRate : Body := fun env args => do
  let function := "ratelimit.check_rate"
  let entry := string args 0
  let counter := Arguments.name args 1
  let window := integer args 3
  let box := Arguments.name args 5
  Stop.lift (requireCounter env.declarations function counter)
  Stop.lift (requireBox env.declarations function box)
  if !windows.contains window then
    throw <| .cause (.failed function s!"window must be one of 1, 10 or 60 but got {window.toInt}")
  if isPenalized env.now (← get) box entry then return ofBool true
  let n ← increment counter entry (integer args 2)
  if integer args 4 < n / window then
    modify fun c => penalize env.now c box entry (rtime args 6)
    return ofBool true
  else return ofBool false

def addCount : Body := fun env args => do
  let counter := Arguments.name args 0
  Stop.lift (requireCounter env.declarations "ratelimit.ratecounter_increment" counter)
  let n ← increment counter (string args 1) (integer args 2)
  return ofInteger n

def addPenalty : Body := fun env args => do
  let box := Arguments.name args 0
  Stop.lift (requireBox env.declarations "ratelimit.penaltybox_add" box)
  modify fun c => penalize env.now c box (string args 1) (rtime args 2)
  return .null

def hasPenalty : Body := fun env args => do
  let box := Arguments.name args 0
  Stop.lift (requireBox env.declarations "ratelimit.penaltybox_has" box)
  return ofBool (isPenalized env.now (← get) box (string args 1))

def rates : List Builtin :=
  [make "ratelimit.ratecounter_increment" [.ident, .string, .integer] [] addCount,
    make "ratelimit.check_rate" [.string, .ident, .integer, .integer, .integer, .ident, .rtime]
      [] checkRate,
    (make "ratelimit.penaltybox_add" [.ident, .string, .rtime] [] addPenalty).asStatement,
    make "ratelimit.penaltybox_has" [.ident, .string] [] hasPenalty]

end EdgeCache.Builtin
