import EdgeCache.Builtin.Library
import EdgeCache.Run.Basic

/-!
The values of expressions. The meaning of the parts, and that of the bodies of subroutines, are
parameters.
-/

namespace EdgeCache

namespace Value

def applyPrefix (op : PrefixOp) (v : Value) : Except ValueError Value :=
  match op, v with
  | .not, v =>
    match v.truth? with
    | some b => .ok (ofBool !b)
    | none => .error (.unsupportedOperator op.sign v.kind)
  | .minus, integer n m => .ok (integer (-n) m)
  | .minus, float x m => .ok (float (-x) m)
  | .minus, rtime d m => .ok (rtime d.neg m)
  | .plus, integer n m => .ok (integer n m)
  | .plus, float x m => .ok (float x m)
  | .plus, rtime d m => .ok (rtime d m)
  | _, v => .error (.unsupportedOperator op.sign v.kind)

def truth (context : String) (v : Value) : Except Cause Bool :=
  match v.truth? with
  | some b => .ok b
  | none => .error (.typeMismatch context .bool v.kind)

end Value

namespace Run

abbrev Evaluator := Expression → Run Value

abbrev Runner := List Statement → Run Flow

def named (env : Environment) (name : String) : Run Value :=
  let d := env.declarations
  match d.backend? name, d.acl? name with
  | some b, _ => pure (.backend b)
  | none, some a => pure (.acl a)
  | none, none =>
    if (d.table? name).isSome then pure (.table name)
    else if (d.label? name).isSome || (d.penaltybox? name).isSome ||
      (d.ratecounter? name).isSome then
      pure (.ident name)
    else reading fun c => c.getVariable env name

def condition (value : Evaluator) (e : Expression) : Run Bool := do
  let v ← value e
  pinned e.token (ofExcept (v.truth "condition"))

def operand (op : InfixOp) (v : Value) : Run Bool := ofExcept (v.truth s!"operand of {op.sign}")

/-- The right operand is taken only if the left one does not decide, which it does if it is
`decisive`. -/
def shortCircuit (value : Evaluator) (op : InfixOp) (decisive : Bool) (left right : Expression) :
    Run Value := do
  let l ← value left
  let a ← operand op l
  if a == decisive then return .ofBool decisive
  else
    let r ← value right
    let b ← operand op r
    return .ofBool b

def soughtBy (op : InfixOp) (l r : Value) : Option (String × String) :=
  match op with
  | .regex | .notRegex => l.sought? r
  | _ => none

def operate (op : InfixOp) (l r : Value) : Run Value := fun m =>
  let m := m.seek (soughtBy op l r)
  match l.operate op r m.context.captures with
  | .ok (v, captures) => (.done v, { m with context := { m.context with captures := captures } })
  | .error e => (.failed (.of e), m)

def binary (value : Evaluator) (op : InfixOp) (left right : Expression) : Run Value :=
  match op with
  | .and => shortCircuit value op false left right
  | .or => shortCircuit value op true left right
  | _ => do
    let l ← value left
    let r ← value right
    operate op l r

/-- The arguments of a call, from a position on. A bare name where a name is wanted stands for
itself. -/
def arguments (value : Evaluator) (b : Builtin) : Nat → List Expression → Run (List Value)
  | _, [] => return []
  | i, e :: es => do
    let v ← match e with
      | .ident _ n => if b.takesName i then pure (.ident n) else value e
      | _ => value e
    let vs ← arguments value b (i + 1) es
    return v :: vs

/-- Calls a predefined function; one that falls back has its value all the same. -/
def callBuiltin (env : Environment) (b : Builtin) (args : List Value) : Run Value := fun m =>
  match b.run env args m.context with
  | .ok v c => (.done v, { m with context := c })
  | .error (.cause (.fallback _ _ v)) c => (.done v, { m with context := c })
  | .error s c => (stopped (s.map Cause.function), { m with context := c })

def resultOf (name : String) (returns : Kind) : Flow → Run Value
  | .value v =>
    if !v.isUnset && v.kind != returns then
      raise (.typeMismatch s!"return value of {name}" returns v.kind)
    else return v
  | .goto l => raise (.undefinedGoto l)
  | _ => return .unset returns

def callFunctional (body : Runner) (s : SubroutineDeclaration) (arguments : Nat) : Run Value := do
  if arguments ≠ 0 then raise (.function (.mustBeEmpty s.name arguments))
  else
    let returns := s.returns.getD .string
    modify fun m => m.enter s.name
    let flow ← inFrame ⟨s.name, some returns⟩ (body s.body)
    resultOf s.name returns flow

def call (env : Environment) (value : Evaluator) (body : Runner) (name : String)
    (es : List Expression) :
    Run Value :=
  match env.declarations.functional? name with
  | some s => callFunctional body s es.length
  | none => do
    let b ← asking fun c => Builtin.resolve env c name
    let args ← arguments value b 0 es
    callBuiltin env b args

def literal (r : Except ValueError Value) : Run Value := ofExcept (r.mapError Cause.value)

def ipLiteral (text : String) : Except ValueError Value :=
  match Address.read? text with
  | some a => .ok (.ip a true)
  | none => .error (.invalidIp text)

def rtimeLiteral (text : String) : Except ValueError Value :=
  match Duration.read? text with
  | some d => .ok (Value.ofRTime d).asLiteral
  | none => .error (.invalidRTime text)

def evaluateWith (env : Environment) (value : Evaluator) (body : Runner) (e : Expression) :
    Run Value :=
  pinned e.token <|
    match e with
    | .ident _ n => named env n
    | .ip _ s => literal (ipLiteral s)
    | .string _ s => pure (Value.ofString s).asLiteral
    | .integer _ n => pure (Value.ofInteger n).asLiteral
    | .float _ x => pure (Value.ofFloat x).asLiteral
    | .boolean _ b => pure (Value.ofBool b).asLiteral
    | .rtime _ s => literal (rtimeLiteral s)
    | .prefixed _ op r => do
      let v ← value r
      ofExcept ((v.applyPrefix op).mapError Cause.value)
    | .group _ e => value e
    | .binary _ l op r => binary value op l r
    | .conditional _ c a b => do
      let yes ← condition value c
      if yes then value a else value b
    | .call _ f es => call env value body f es

end Run

end EdgeCache
