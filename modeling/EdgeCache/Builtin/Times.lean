import EdgeCache.Builtin.Basic
import EdgeCache.Text.Integer
import EdgeCache.Time.Reader

/-!
Functions on points in time.
-/

namespace EdgeCache.Builtin

open Arguments
open Value (ofChars ofBool ofTime ofString)

def moved (move : Instant → Duration → Option Instant) (args : List Value) : Except String Value :=
  match move (time args 0) (rtime args 1) with
  | some t => .ok (ofTime t)
  | none => .error "time overflow"

def dropStarts (start : List Char) : Nat → List Char → List Char
  | 0, cs => cs
  | n + 1, cs => if start.isPrefixOf cs then dropStarts start n (cs.drop start.length) else cs

def hexDigitsOf (cs : List Char) : List Char :=
  let cs := dropStarts ['0', 'x'] cs.length cs
  dropStarts ['0', 'X'] cs.length cs

def hexTime (args : List Value) : Except String Value :=
  let divisor := (integer args 0).toInt
  if divisor = 0 then .error "divisor must not be zero"
  else
    match Integer.readSigned 16 (hexDigitsOf (chars args 1)) with
    | .error e => .error s!"invalid hex {Quoted.quote (string args 1)}: {e.message}"
    | .ok n =>
      match Instant.ofSeconds? (n.tdiv divisor) 0 with
      | some t => .ok (ofTime t)
      | none => .error "timestamp out of range"

/-- A count of seconds out of range leaves a mark and gives the start of counting. -/
def timeOfInteger : Body := fun _ args => do
  match Instant.ofSeconds? (integer args 0).toInt 0 with
  | some t => return ofTime t
  | none =>
    modify (·.setSlot .lastError (ofString "ERANGE"))
    return ofTime .epoch

/-- An item that cannot be written panics. -/
def formatted : Body := fun _ args =>
  match Layout.read? (chars args 0) with
  | none => throw <| .cause (.failed "strftime" s!"invalid format {Quoted.quote (string args 0)}")
  | some items =>
    match Layout.write? (time args 1) items with
    | some cs => return ofChars cs
    | none => throw .panic

def times : List Builtin :=
  [failing "time.add" [.time, .rtime] [] (moved Instant.add?),
    failing "time.sub" [.time, .rtime] [] (moved Instant.sub?),
    plain "time.is_after" [.time, .time] [] fun args => ofBool ((time args 1).lt (time args 0)),
    failing "time.hex_to_time" [.integer, .string] [] hexTime,
    make "std.integer2time" [.integer] [] timeOfInteger,
    plain "std.time" [.string, .time] [] fun args =>
      ofTime ((TimeReader.any? (string args 0)).getD (time args 1)),
    make "strftime" [.string, .time] [] formatted]

end EdgeCache.Builtin
