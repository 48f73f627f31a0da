import EdgeCache.Scope
import EdgeCache.Value.Basic

/-!
What ends the run of a program: a cause, and the place in the program where it arose, or a panic.
-/

namespace EdgeCache

inductive DirectorError where
  | allBackendsFailed (director : String)
  | quorumNotReached (director : String)
  | config (token : Token) (text : String)
  deriving Repr, DecidableEq

namespace DirectorError

def name : DirectorError → String
  | allBackendsFailed _ => "AllBackendsFailed"
  | quorumNotReached _ => "QuorumWeightNotReached"
  | config .. => "Config"

def message : DirectorError → String
  | allBackendsFailed d => s!"director {d}: all backends failed"
  | quorumNotReached d => s!"director {d}: quorum weight not reached"
  | config t text => s!"{t.text}: {text}"

end DirectorError

inductive FunctionError where
  | mustBeEmpty (function : String) (actual : Nat)
  | notEnough (function : String) (expected actual : Nat)
  | notInRange (function : String) (least most actual : Nat)
  | typeMismatch (function : String) (position : Nat) (expected actual : Kind)
  | failed (function text : String)
  | fallback (function text : String) (value : Value)
  | notImplemented (function : String)
  | testing (function text : String)
  | assertion (actual text : String)

namespace FunctionError

def name : FunctionError → String
  | mustBeEmpty .. => "ArgumentMustEmpty"
  | notEnough .. => "ArgumentNotEnough"
  | notInRange .. => "ArgumentNotInRange"
  | typeMismatch .. => "TypeMismatch"
  | failed .. => "Failed"
  | fallback .. => "Fallback"
  | notImplemented _ => "NotImplemented"
  | testing .. => "Testing"
  | assertion .. => "Assertion"

def message : FunctionError → String
  | mustBeEmpty f n => s!"[{f}] arguments must be empty but {n} provided"
  | notEnough f e n => s!"[{f}] expects {e} arguments but {n} provided"
  | notInRange f a b n => s!"[{f}] expects {a} to {b} arguments but {n} provided"
  | typeMismatch f p e a => s!"[{f}] argument {p} expects {e.text} but got {a.text}"
  | failed f t => s!"[{f}] {t}"
  | fallback f t _ => s!"[{f}] {t}"
  | notImplemented f => s!"[{f}] not implemented"
  | testing f t => s!"[{f}] {t}"
  | assertion _ t => s!"Assertion Error: {t}"

end FunctionError

inductive Cause where
  | value (e : ValueError)
  | function (e : FunctionError)
  | director (e : DirectorError)
  | config (text : String)
  | undefinedVariable (name : String) (scope : Scope)
  | readOnlyVariable (name : String) (scope : Scope)
  | invalidValue (name reason : String)
  | notAddable (name : String)
  | typeMismatch (context : String) (expected actual : Kind)
  | undefinedSubroutine (name : String)
  | undefinedFunction (name : String)
  | functionNotInScope (name : String) (scope : Scope)
  | notStatementCallable (name : String)
  | undefinedGoto (label : String)
  | invalidReturnState (state : String) (scope : Scope)
  | statementNotAllowed (statement : String) (scope : Scope)
  | tooManyRestarts (limit : Nat)
  | origin (text : String)

namespace Cause

def message : Cause → String
  | value e => e.message
  | function e => e.message
  | director e => e.message
  | config text => s!"configuration error: {text}"
  | undefinedVariable n s => s!"undefined variable {n} in {s.text} scope"
  | readOnlyVariable n s => s!"variable {n} is read-only in {s.text} scope"
  | invalidValue n reason => s!"invalid value for {n}: {reason}"
  | notAddable n => s!"cannot add to {n}: only header variables accept add"
  | typeMismatch c e a => s!"{c} expects {e.text} but got {a.text}"
  | undefinedSubroutine n => s!"undefined subroutine {n}"
  | undefinedFunction n => s!"undefined function {n}"
  | functionNotInScope n s => s!"function {n} is not available in {s.text} scope"
  | notStatementCallable n => s!"function {n} cannot be called as a statement"
  | undefinedGoto l => s!"goto destination {l} is not found"
  | invalidReturnState r s => s!"return state {r} is not allowed in {s.text} scope"
  | statementNotAllowed t s => s!"{t} statement is not allowed in {s.text} scope"
  | tooManyRestarts n => s!"too many restarts: limit is {n}"
  | origin text => s!"origin fetch failed: {text}"

def name : Cause → String
  | value e => "Value." ++ e.name
  | function e => "Function." ++ e.name
  | director e => "Director." ++ e.name
  | config _ => "Config"
  | undefinedVariable .. => "UndefinedVariable"
  | readOnlyVariable .. => "ReadOnlyVariable"
  | invalidValue .. => "InvalidValue"
  | notAddable _ => "NotAddable"
  | typeMismatch .. => "TypeMismatch"
  | undefinedSubroutine _ => "UndefinedSubroutine"
  | undefinedFunction _ => "UndefinedFunction"
  | functionNotInScope .. => "FunctionNotInScope"
  | notStatementCallable _ => "NotStatementCallable"
  | undefinedGoto _ => "UndefinedGoto"
  | invalidReturnState .. => "InvalidReturnState"
  | statementNotAllowed .. => "StatementNotAllowed"
  | tooManyRestarts _ => "TooManyRestarts"
  | origin _ => "Origin"

end Cause

inductive Failure where
  | of (cause : Cause)
  | located (place : Token) (source : Failure)

namespace Failure

def cause : Failure → Cause
  | of c => c
  | located _ f => f.cause

def token : Failure → Option Token
  | of _ => none
  | located t _ => some t

/-- Pins a failure to a place, unless it has one. -/
def pin (t : Token) : Failure → Failure
  | of c => located t (of c)
  | located t' f => located t' f

@[simp] theorem cause_pin (t : Token) (f : Failure) : (f.pin t).cause = f.cause := by
  cases f <;> rfl

@[simp] theorem isSome_token_pin (t : Token) (f : Failure) : (f.pin t).token.isSome = true := by
  cases f <;> rfl

theorem pin_of_isSome {f : Failure} (t : Token) (h : f.token.isSome = true) : f.pin t = f := by
  cases f with
  | of c => cases h
  | located t' f => rfl

def message : Failure → String
  | of c => c.message
  | located t f => s!"{f.message} at {t.text}"

def isAssertion (f : Failure) : Bool :=
  match f.cause with
  | .function (.assertion ..) => true
  | _ => false

end Failure

/-- Why there is no result: a cause that the program is told, or a panic. A computation that leaves
its range panics, and that is the end of the whole operation. -/
inductive Stop (ε : Type) where
  | cause (e : ε)
  | panic

def Stop.map {ε δ : Type} (f : ε → δ) : Stop ε → Stop δ
  | .cause e => .cause (f e)
  | .panic => .panic

def Stop.lift {ε σ α : Type} (r : Except ε α) : EStateM (Stop ε) σ α := ofExcept (r.mapError .cause)

instance : Coe ValueError Cause := ⟨.value⟩
instance : Coe FunctionError Cause := ⟨.function⟩
instance : Coe DirectorError Cause := ⟨.director⟩

end EdgeCache
