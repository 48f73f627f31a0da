import EdgeCache.Run.Expression
import EdgeCache.Variable.Resolver

/-!
The effects of statements, and the meaning of programs that ties expressions and statements
together. Each step into a part takes one from a count, so that a run that does not end is given up.
-/

namespace EdgeCache.Run

def callSubroutine (env : Environment) (body : Runner) (name : String) : Run Flow :=
  match env.declarations.subroutine? name with
  | none => raise (.undefinedSubroutine name)
  | some s => do
    modify fun m => m.enter name
    let flow ← inFrame ⟨s.name, none⟩ (body s.body)
    match flow with
    | .next | .leave | .returned none | .value _ => return .next
    | .goto l => raise (.undefinedGoto l)
    | other => return other

def firstOf (value : Evaluator) (body : Runner) (otherwise : Run Flow) : List ElseIf → Run Flow
  | [] => otherwise
  | .mk c b :: rest => do
    let yes ← condition value c
    if yes then body b else firstOf value body otherwise rest

def branch (value : Evaluator) (body : Runner) (c : Expression) (a : List Statement)
    (others : List ElseIf) (last : Option (List Statement)) : Run Flow :=
  firstOf value body
    (match last with
      | some b => body b
      | none => pure .next)
    (.mk c a :: others)

/-- Whether a case takes the text of a switch; a pattern that matches leaves its groups. -/
def takes (subject : String) (case : Case) : Run Bool := fun m =>
  match case.test with
  | none => (.done false, m)
  | some (.equal text) => (.done (subject == text), m)
  | some (.regex pattern) =>
    match Value.search pattern subject m.context.captures with
    | .ok (hit, captures) =>
      (.done hit, { m with context := { m.context with captures := captures } })
    | .error e => (.failed ((Failure.of e).pin case.token), m)

def casesFrom (subject : String) : List Case → Run (Option (List Case))
  | [] => return none
  | c :: cs => do
    let hit ← takes subject c
    if hit then return some (c :: cs) else casesFrom subject cs

def runCases (body : Runner) : List Case → Run Flow
  | [] => return .next
  | c :: cs => do
    let flow ← body c.body
    match flow with
    | .leave => return .next
    | .next => if c.fallthrough then runCases body cs else return .next
    | other => return other

def switch (value : Evaluator) (body : Runner) (control : Expression) (cases : List Case)
    (default : Option Nat) : Run Flow := do
  let subject ← value control
  let taken ← casesFrom subject.text cases
  match taken with
  | some cs => runCases body cs
  | none =>
    match default with
    | some i => runCases body (cases.drop i)
    | none => return .next

def stateOf (e : Expression) : Run Flow := fun m =>
  let scope := m.context.scope
  match e with
  | .ident _ n =>
    match (ReturnState.ofText? n).filter scope.legalReturns.contains with
    | some s => (.done (.returned (some s)), m)
    | none => (.failed (.of (.invalidReturnState n scope)), m)
  | _ => (.failed (.of (.invalidReturnState "expression" scope)), m)

def giveBack (value : Evaluator) (e : Option Expression) : Run Flow := fun m =>
  match m.frames.head?.bind Frame.returns, e with
  | some k, none => (.done (.value (.unset k)), m)
  | some _, some e => (do
      let v ← value e
      return .value v : Run Flow) m
  | none, none => (.done (.returned none), m)
  | none, some e => stateOf e m

def reasonOf (status : Int64) : String :=
  ((Status.ofCode? status.toInt).bind Status.phrase?).getD "Unknown"

def integer (value : Evaluator) (context : String) (e : Expression) : Run Int64 := do
  let v ← value e
  match v.integer? with
  | some n => return n
  | none => fail ((Failure.of (.typeMismatch context .integer v.kind)).pin e.token)

def errorStatus (value : Evaluator) : Option Expression → Run Int64
  | some e => integer value "error status" e
  | none => pure 503

def errorText (value : Evaluator) (status : Int64) : Option Expression → Run String
  | some e => do
    let v ← value e
    return v.text
  | none => pure (reasonOf status)

def raiseError (value : Evaluator) (code response : Option Expression) : Run Flow := do
  require Scope.allowsError "error"
  let status ← errorStatus value code
  let text ← errorText value status response
  modify fun m => m.raise status text
  return .error

def synthesized (base64 : Bool) (text : String) : Except Cause String :=
  if base64 then
    match Base64.decode .standard .required (Utf8.ofString text) with
    | .ok bytes => .ok (Utf8.toString bytes)
    | .error e => .error (.invalidValue "synthetic.base64" e.message)
  else .ok text

def synthesize (value : Evaluator) (e : Expression) (base64 : Bool) : Run Flow := do
  require (· == .error) "synthetic"
  let v ← value e
  let text ← ofExcept (synthesized base64 v.text)
  modifyContext fun c => { c with object := { c.object with body := text } }
  return .next

def jump (env : Environment) (label : String) : Run Flow := fun m =>
  match env.declarations.label? label, m.frames.head? with
  | some l, some f =>
    if l.subroutine = f.name then (.done (.goto label), m)
    else (.failed (.of (.undefinedGoto label)), m)
  | _, _ => (.failed (.of (.undefinedGoto label)), m)

def applyBuiltin (env : Environment) (value : Evaluator) (name : String) (es : List Expression) :
    Run Flow := do
  let b ← asking fun c => Builtin.resolve env c name
  if !b.isStatement then raise (.notStatementCallable name)
  else
    let args ← arguments value b 0 es
    discard (callBuiltin env b args)
    return .next

def executeWith (env : Environment) (value : Evaluator) (body : Runner) (s : Statement) :
    Run Flow :=
  pinned s.token <|
    match s with
    | .block _ b => body b
    | .declare _ n k => do
      modifyContext fun c => { c with locals := c.locals.put n (.unset k) }
      return .next
    | .set _ n op e => do
      let v ← value e
      editing (Context.assignVariable env n op v)
      return .next
    | .unset _ n => do
      editing (Context.removeVariable env n)
      return .next
    | .add _ n e => do
      let v ← value e
      editing (Context.appendVariable env n v)
      return .next
    | .call _ n => callSubroutine env body n
    | .branch _ c a others last => branch value body c a others last
    | .switch _ e cases default => switch value body e cases default
    | .restart _ => do
      require Scope.allowsRestart "restart"
      modify fun m => m.transfer .restart
      return .restart
    | .esi _ => do
      modifyContext fun c => { c with triggerEsi := true }
      return .next
    | .log _ e => do
      let v ← value e
      modify fun m => m.log v.text
      return .next
    | .synthetic _ e base64 => synthesize value e base64
    | .ret _ e => giveBack value e
    | .error _ code response => raiseError value code response
    | .goto _ l => jump env l
    | .label _ _ => return .next
    | .apply _ f es => applyBuiltin env value f es
    | .leave _ => return .leave

def afterLabel? (label : String) : List Statement → Option (List Statement)
  | [] => none
  | .label _ n :: rest => if n = label then some rest else afterLabel? label rest
  | _ :: rest => afterLabel? label rest

mutual

def evaluate (env : Environment) : Nat → Evaluator
  | 0, _ => exhausted
  | n + 1, e => evaluateWith env (evaluate env n) (fun b => runFrom env n b b) e

/-- Runs what is left of a list of statements. A jump goes on after its label, if the list has
it. -/
def runFrom (env : Environment) : Nat → List Statement → List Statement → Run Flow
  | 0, _, _, m => (.halted .exhausted, m)
  | _ + 1, _, [], m => (.done .next, m)
  | n + 1, whole, s :: rest, m =>
    match executeWith env (evaluate env n) (fun b => runFrom env n b b) s
      (m.note (.statement s)) with
    | (.done .next, m) => runFrom env n whole rest m
    | (.done (.goto l), m) =>
      match afterLabel? l whole with
      | some rest => runFrom env n whole rest m
      | none => (.done (.goto l), m)
    | other => other

end

def runBody (env : Environment) (n : Nat) (body : List Statement) : Run Flow :=
  runFrom env n body body

end EdgeCache.Run
