import EdgeCache.Acl
import EdgeCache.Time.Layout

/-!
Values of running programs. Most carry two marks: whether they stand as literals in the program, and
whether they were never set.
-/

namespace EdgeCache

inductive BackendSource where
  | origin (d : BackendDeclaration)
  | director (d : DirectorDeclaration)

structure Backend where
  name : String
  source : BackendSource

namespace Backend

def director? (b : Backend) : Option DirectorDeclaration :=
  match b.source with
  | .director d => some d
  | .origin _ => none

def hasProperty (b : Backend) (key : String) : Bool :=
  match b.source with
  | .origin d => d.properties.any fun p => p.key == key
  | .director _ => false

def property? (b : Backend) (key : String) : Option String :=
  match b.source with
  | .director _ => none
  | .origin d =>
    match d.properties.find? fun p => p.key == key with
    | some ⟨_, _, .string _ s⟩ => some s
    | some ⟨_, _, .integer _ n⟩ => some (String.ofList (Decimal.ofInt n.toInt))
    | some ⟨_, _, .ident _ n⟩ => some n
    | _ => none

end Backend

structure Marks where
  literal : Bool
  notSet : Bool
  deriving Repr, DecidableEq, Inhabited

def Marks.plain : Marks := ⟨false, false⟩

def Marks.unset : Marks := ⟨false, true⟩

inductive Value where
  | integer (n : Int64) (marks : Marks)
  | float (x : Float) (marks : Marks)
  | string (s : String) (marks : Marks)
  | bool (b : Bool) (marks : Marks)
  | rtime (d : Duration) (marks : Marks)
  | time (t : Instant) (notSet : Bool)
  | ip (a : Address) (literal : Bool)
  | acl (a : Acl)
  | backend (b : Backend)
  | table (name : String)
  | ident (name : String)
  | null

instance : Inhabited Value := ⟨.null⟩

namespace Value

def ofInteger (n : Int64) : Value := .integer n .plain
def ofInt (n : Int) : Value := .integer (Int64.ofInt n) .plain
def ofFloat (x : Float) : Value := .float x .plain
def ofString (s : String) : Value := .string s .plain
def ofBool (b : Bool) : Value := .bool b .plain
def ofRTime (d : Duration) : Value := .rtime d .plain
def ofTime (t : Instant) : Value := .time t false
def ofIp (a : Address) : Value := .ip a false
def ofChars (cs : List Char) : Value := ofString (String.ofList cs)

def unsetString : Value := .string "" .unset

def unset : Kind → Value
  | .integer => .integer 0 .unset
  | .float => .float 0.0 .unset
  | .string => unsetString
  | .bool => .bool false .unset
  | .rtime => .rtime .zero .unset
  | .time => .time .epoch true
  | _ => .null

def kind : Value → Kind
  | integer .. => .integer
  | float .. => .float
  | string .. => .string
  | bool .. => .bool
  | rtime .. => .rtime
  | time .. => .time
  | ip .. => .ip
  | acl _ => .acl
  | backend _ => .backend
  | table _ => .table
  | ident _ => .ident
  | null => .null

def asLiteral : Value → Value
  | integer n m => integer n { m with literal := true }
  | float x m => float x { m with literal := true }
  | string s m => string s { m with literal := true }
  | bool b m => bool b { m with literal := true }
  | rtime d m => rtime d { m with literal := true }
  | ip a _ => ip a true
  | v => v

def isLiteral : Value → Bool
  | integer _ m | float _ m | string _ m | bool _ m | rtime _ m => m.literal
  | ip _ l => l
  | _ => false

def isUnset : Value → Bool
  | integer _ m | float _ m | string _ m | bool _ m | rtime _ m => m.notSet
  | time _ u => u
  | null => true
  | _ => false

theorem kind_unset (k : Kind) : (unset k).kind = if k.hasZero then k else .null := by
  cases k <;> rfl

theorem isUnset_unset (k : Kind) : (unset k).isUnset = true := by
  cases k <;> rfl

def string? : Value → Option String
  | string s _ => some s
  | _ => none

def integer? : Value → Option Int64
  | integer n _ => some n
  | _ => none

def float? : Value → Option Float
  | float x _ => some x
  | _ => none

def bool? : Value → Option Bool
  | bool b _ => some b
  | _ => none

def rtime? : Value → Option Duration
  | rtime d _ => some d
  | _ => none

def time? : Value → Option Instant
  | time t _ => some t
  | _ => none

def ip? : Value → Option Address
  | ip a _ => some a
  | _ => none

def backend? : Value → Option Backend
  | backend b => some b
  | _ => none

def floatText (x : Float) : List Char := Decimal.fixed 3 x

def text : Value → String
  | integer n _ => String.ofList (Decimal.ofInt n.toInt)
  | float x _ => String.ofList (floatText x)
  | string s _ => s
  | bool b _ => if b then "1" else "0"
  | rtime d _ => String.ofList d.text
  | time t _ => String.ofList (Layout.httpDate t)
  | ip a _ => a.text
  | acl a => a.name
  | backend b => b.name
  | table n => n
  | ident n => n
  | null => ""

def sameFloat (x y : Float) : Bool := x == y || (Binary64.isNaN x && Binary64.isNaN y)

/-- Whether two values agree in type, content and marks; lists and backends are told by name. -/
def same : Value → Value → Bool
  | integer a m, integer b n => a == b && m == n
  | float a m, float b n => sameFloat a b && m == n
  | string a m, string b n => a == b && m == n
  | bool a m, bool b n => a == b && m == n
  | rtime a m, rtime b n => a == b && m == n
  | time a u, time b v => a == b && u == v
  | ip a l, ip b k => a == b && l == k
  | acl a, acl b => a.name == b.name
  | backend a, backend b => a.name == b.name
  | table a, table b => a == b
  | ident a, ident b => a == b
  | null, null => true
  | _, _ => false

def truth? : Value → Option Bool
  | bool b _ => some b
  | string _ m => some (!m.notSet)
  | _ => none

end Value

end EdgeCache
