import EdgeCache.Context.Basic

/-!
Predefined functions: a name, the stages that may call it, the types of its arguments, and a body.
The arguments are checked before the body runs.
-/

namespace EdgeCache

inductive Parameter where
  | is (k : Kind)
  | anything
  deriving Repr, DecidableEq

namespace Parameter

def text : Parameter → String
  | .is k => k.text
  | anything => "ANY"

def accepts : Parameter → Value → Bool
  | .is k, v => v.kind == k
  | anything, _ => true

end Parameter

/-- The body of a function. It gives a value and works on the context itself: what it has changed
stays changed when it stops after that. -/
abbrev Body := Environment → List Value → EStateM (Stop FunctionError) Context Value

structure Builtin where
  name : String
  scopes : ScopeSet
  required : List Parameter
  optional : List Parameter
  isStatement : Bool
  isTesting : Bool
  body : Body

namespace Builtin

def parameters (b : Builtin) : List Parameter := b.required ++ b.optional

def takesName (b : Builtin) (position : Nat) : Bool := b.parameters[position]? == some (.is .ident)

def checkTypes (name : String) : Nat → List Parameter → List Value → Except FunctionError Unit
  | i, .is k :: ps, v :: vs =>
    if v.kind = k then checkTypes name (i + 1) ps vs else .error (.typeMismatch name i k v.kind)
  | i, .anything :: ps, _ :: vs => checkTypes name (i + 1) ps vs
  | _, _, _ => .ok ()

def check (b : Builtin) (args : List Value) : Except FunctionError Unit :=
  let least := b.required.length
  let most := b.parameters.length
  if most = 0 ∧ args.length ≠ 0 then .error (.mustBeEmpty b.name args.length)
  else if b.optional.isEmpty ∧ args.length ≠ least then .error (.notEnough b.name least args.length)
  else if args.length < least ∨ most < args.length then
    .error (.notInRange b.name least most args.length)
  else checkTypes b.name 1 b.parameters args

def run (b : Builtin) (env : Environment) (args : List Value) :
    EStateM (Stop FunctionError) Context Value := do
  Stop.lift (b.check args)
  b.body env args

def call (b : Builtin) (env : Environment) (c : Context) (args : List Value) :
    Except (Stop FunctionError) (Value × Context) :=
  match b.run env args c with
  | .ok v d => .ok (v, d)
  | .error e _ => .error e

def make (name : String) (required optional : List Parameter) (body : Body) : Builtin :=
  ⟨name, .all, required, optional, false, false, body⟩

def asStatement (b : Builtin) : Builtin := { b with isStatement := true }

def within (scopes : List Scope) (b : Builtin) : Builtin := { b with scopes := ⟨scopes⟩ }

def plain (name : String) (required optional : List Parameter) (f : List Value → Value) : Builtin :=
  make name required optional fun _ args => return f args

def failing (name : String) (required optional : List Parameter)
    (f : List Value → Except String Value) :
    Builtin :=
  make name required optional fun _ args => Stop.lift ((f args).mapError (.failed name))

end Builtin

namespace Parameter

def string : Parameter := .is .string
def integer : Parameter := .is .integer
def float : Parameter := .is .float
def bool : Parameter := .is .bool
def rtime : Parameter := .is .rtime
def time : Parameter := .is .time
def ip : Parameter := .is .ip
def acl : Parameter := .is .acl
def backend : Parameter := .is .backend
def table : Parameter := .is .table
def ident : Parameter := .is .ident

end Parameter

/-! The arguments of a call. Their types were checked, so the defaults are those of optional
ones. -/

namespace Arguments

def string (args : List Value) (i : Nat) : String := ((args[i]?).bind Value.string?).getD ""

def chars (args : List Value) (i : Nat) : List Char := (string args i).toList

def bytes (args : List Value) (i : Nat) : List UInt8 := Utf8.ofString (string args i)

def integer? (args : List Value) (i : Nat) : Option Int64 := (args[i]?).bind Value.integer?

def integer (args : List Value) (i : Nat) : Int64 := (integer? args i).getD 0

def float (args : List Value) (i : Nat) : Float := ((args[i]?).bind Value.float?).getD 0.0

def bool (args : List Value) (i : Nat) : Bool := ((args[i]?).bind Value.bool?).getD false

def rtime (args : List Value) (i : Nat) : Duration := ((args[i]?).bind Value.rtime?).getD .zero

def time (args : List Value) (i : Nat) : Instant := ((args[i]?).bind Value.time?).getD .epoch

def ip? (args : List Value) (i : Nat) : Option Address := (args[i]?).bind Value.ip?

def name (args : List Value) (i : Nat) : String :=
  match args[i]? with
  | some (.table n) | some (.ident n) => n
  | _ => ""

end Arguments

end EdgeCache
