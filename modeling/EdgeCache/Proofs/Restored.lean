import EdgeCache.Proofs.Atomic
import EdgeCache.Proofs.Calls
import EdgeCache.Proofs.Goto

/-! What runs put back. Every run ends in the frames in which it began. Expressions and calls leave
the locals as they were, and a callee begins without any. -/

namespace EdgeCache

def SubroutineDeclaration.owes (s : SubroutineDeclaration) : Kind := s.returns.getD .string

def Statement.Callee.frame (s : SubroutineDeclaration) : Statement.Callee → Frame
  | .plain _ => ⟨s.name, none⟩
  | .functional _ => ⟨s.name, some s.owes⟩

theorem Declarations.name_of_subroutine? {d : Declarations} {name : String}
    {s : SubroutineDeclaration} (h : d.subroutine? name = some s) : s.name = name := by
  have same := List.find?_some h
  exact beq_iff_eq.mp same

namespace Run

def execute (env : Environment) (n : Nat) (s : Statement) : Run Flow :=
  executeWith env (evaluate env n) (fun b => runFrom env n b b) s

/-- The machine after a call, by a statement or within an expression. -/
def invoke (env : Environment) (n : Nat) (t : Token) (c : Statement.Callee) (m : Machine) :
    Machine :=
  match c with
  | .plain name => (execute env n (.call t name) m).2
  | .functional name => (evaluate env (n + 1) (.call t name []) m).2

end Run

def Machine.locals (m : Machine) : Register Value := m.context.locals

open Machine (locals)

theorem Machine.seek_context (m : Machine) (sought : Option (String × String)) :
    (m.seek sought).context = m.context := by
  cases sought <;> rfl

theorem Builtin.call_locals {env : Environment} {b : Builtin} (hb : b ∈ library) {c d : Context}
    {args : List Value} {v : Value} (h : b.call env c args = .ok (v, d)) : d.locals = c.locals := by
  rcases call_effect hb h with beside | ⟨m, headers, -, rfl⟩
  · rw [beside.rest]
  · cases m <;> rfl

namespace Run

section Expressions

variable {env : Environment} {value : Evaluator} {body : Runner}

theorem named_retains {γ : Type} {view : Machine → γ} (name : String) :
    (named env name).Retains view := by
  unfold named
  dsimp only
  split
  · exact retains_pure _
  · exact retains_pure _
  · split
    · exact retains_pure _
    · split
      · exact retains_pure _
      · exact retains_reading _

theorem operate_retains (op : InfixOp) (l r : Value) : (operate op l r).Retains locals := by
  intro m
  have sought := congrArg Context.locals (m.seek_context (soughtBy op l r))
  unfold operate
  dsimp only
  split <;> exact sought

theorem callBuiltin_retains {b : Builtin} (hb : b ∈ Builtin.library) (args : List Value) :
    (callBuiltin env b args).Retains locals := by
  intro m
  cases called : b.run env args m.context with
  | ok v c =>
    unfold callBuiltin
    rw [called]
    exact Builtin.call_locals hb (Builtin.call_eq_ok.mpr called)
  | error e c => rw [callBuiltin_of_error hb called]

theorem inFrame_retains {α : Type} (f : Frame) (x : Run α) : (inFrame f x).Retains locals :=
  fun _ => rfl

theorem resultOf_retains {α : Type} {view : Machine → α} (name : String) (returns : Kind)
    (flow : Flow) :
    (resultOf name returns flow).Retains view := by
  unfold resultOf
  split
  · split
    · exact retains_fail _
    · exact retains_pure _
  · exact retains_fail _
  · exact retains_pure _

theorem callFunctional_retains (s : SubroutineDeclaration) (arguments : Nat) :
    (callFunctional body s arguments).Retains locals := by
  unfold callFunctional
  split
  · exact retains_fail _
  · have entered : (modify fun m => m.enter s.name).Retains locals := fun _ => rfl
    exact entered.bind fun _ => (inFrame_retains _ _).bind fun flow => resultOf_retains _ _ flow

variable (hv : ∀ e, (value e).Retains locals)
include hv

theorem condition_retains (e : Expression) : (condition value e).Retains locals :=
  (hv e).bind fun _ => (retains_ofExcept _).pinned e.token

theorem shortCircuit_retains (op : InfixOp) (decisive : Bool) (left right : Expression) :
    (shortCircuit value op decisive left right).Retains locals := by
  refine (hv left).bind fun _ => Retains.bind (retains_ofExcept _) fun a => ?_
  split
  · exact retains_pure _
  · exact (hv right).bind fun r => Retains.bind (retains_ofExcept _) fun b => retains_pure _

theorem binary_retains (op : InfixOp) (left right : Expression) :
    (binary value op left right).Retains locals := by
  unfold binary
  split
  · exact shortCircuit_retains hv _ _ left right
  · exact shortCircuit_retains hv _ _ left right
  · exact (hv left).bind fun l => (hv right).bind fun r => operate_retains op l r

theorem arguments_retains (b : Builtin) (i : Nat) (es : List Expression) :
    (arguments value b i es).Retains locals := by
  induction es generalizing i with
  | nil => exact retains_pure _
  | cons e es ih =>
    have rest (v : Value) :
        (Run.bind (arguments value b (i + 1) es) fun vs => pure (v :: vs)).Retains locals :=
      (ih (i + 1)).bind fun vs => retains_pure _
    unfold arguments
    dsimp only
    split
    · split
      · exact (retains_pure _).bind rest
      · exact (hv _).bind rest
    · exact (hv e).bind rest

theorem call_retains (name : String) (es : List Expression) :
    (call env value body name es).Retains locals := by
  unfold call
  split
  · exact callFunctional_retains _ _
  · refine retains_bind_asking fun c b resolved => ?_
    have known : b ∈ Builtin.library := (Builtin.of_resolve resolved).1
    exact (arguments_retains hv b 0 es).bind fun args => callBuiltin_retains known args

theorem evaluateWith_retains (e : Expression) : (evaluateWith env value body e).Retains locals := by
  refine Retains.pinned e.token ?_
  cases e with
  | ident _ n => exact named_retains n
  | ip | rtime => exact retains_ofExcept _
  | string | integer | float | boolean => exact retains_pure _
  | «prefixed» _ op r => exact (hv r).bind fun v => retains_ofExcept _
  | group _ e => exact hv e
  | binary _ l op r => exact binary_retains hv op l r
  | conditional _ c a b =>
    refine (condition_retains hv c).bind fun yes => ?_
    cases yes
    · exact hv b
    · exact hv a
  | call _ f es => exact call_retains hv f es

end Expressions

variable {env : Environment} {n : Nat}

theorem evaluate_retains (n : Nat) (e : Expression) : (evaluate env n e).Retains locals := by
  -- the bodies that run within an expression need no hypothesis, since each call puts the locals
  -- back
  induction n generalizing e with
  | zero => exact fun _ => by rw [evaluate]; rfl
  | succ n ih => exact fun m => by rw [evaluate]; exact evaluateWith_retains ih e m

theorem evaluate_keepsFrames (n : Nat) (e : Expression) : (evaluate env n e).KeepsFrames :=
  keepsFrames_of_obeys (Contract.gives_evaluate (d := (transfers env).contract) n fun _ _ =>
    trivial)

theorem runFrom_keepsFrames (n : Nat) (whole rest : List Statement) :
    (runFrom env n whole rest).KeepsFrames :=
  keepsFrames_of_obeys <|
    Contract.flows_runFrom (d := (transfers env).contract) n (fun _ _ _ _ => trivial)
      fun _ _ _ _ => trivial

theorem execute_keepsFrames (n : Nat) (s : Statement) : (execute env n s).KeepsFrames :=
  keepsFrames_of_obeys <| Contract.flows_executeWith (d := (transfers env).contract)
    (fun _ he => Contract.gives_evaluate n he) (fun _ hb => Contract.flows_runFrom n hb hb)
      fun _ _ => trivial

theorem subroutine_keepsFrames (name : String) (s : Scope) :
    (Run.subroutine env name s).KeepsFrames := by
  intro m
  have ran := Discipline.subroutine_verdict (d := transfers env) name s m
  generalize Run.subroutine env name s m = r at ran
  rcases r with ⟨e | f | _, n⟩
  · obtain ⟨p, hp, rfl⟩ := ran
    exact hp.1
  · exact ran.2.1
  · exact ran.1

theorem evaluate_functional {name : String} {s : SubroutineDeclaration}
    (found : env.declarations.functional? name = some s) (n : Nat) (t : Token) (m : Machine) :
    evaluate env (n + 1) (.call t name []) m =
      pinned t (Run.bind (inFrame ⟨s.name, some s.owes⟩ (runBody env n s.body))
        (resultOf s.name s.owes))
        (m.enter s.name) := by
  rw [evaluate]
  show pinned t (call env (evaluate env n) (fun b => runFrom env n b b) name []) m = _
  simp only [call, found]
  rfl

theorem invoke_eq {t : Token} {c : Statement.Callee} {s : SubroutineDeclaration}
    (found : env.declarations.callee? c = some s) (m : Machine) :
    invoke env n t c m =
      (runBody env n s.body ((m.enter s.name).push (c.frame s))).2.pop m.context.locals := by
  cases c with
  | plain name =>
    have found : env.declarations.subroutine? name = some s := found
    show (pinned t (callSubroutine env (fun b => runFrom env n b b) name) m).2 = _
    rw [pinned_machine]
    simp only [callSubroutine, found]
    rw [← Declarations.name_of_subroutine? found]
    show (Run.bind (inFrame ⟨s.name, none⟩ (runBody env n s.body)) _ (m.enter s.name)).2 = _
    -- the caller only looks at the flow of the body
    refine bind_machine (fun flow => ?_) (m.enter s.name)
    split <;> exact fun _ => rfl
  | functional name =>
    have found : env.declarations.functional? name = some s := found
    show (evaluate env (n + 1) (.call t name []) m).2 = _
    rw [evaluate_functional found, pinned_machine]
    exact bind_machine (fun flow => resultOf_retains s.name s.owes flow) (m.enter s.name)

theorem call_retainsLocals (t : Token) (name : String) :
    (execute env n (.call t name)).Retains locals := by
  refine Retains.pinned t ?_
  show (callSubroutine env _ name).Retains locals
  unfold callSubroutine
  split
  · exact retains_fail _
  · have entered : (modify fun m => m.enter name).Retains locals := fun _ => rfl
    refine entered.bind fun _ => (inFrame_retains _ _).bind fun flow => ?_
    split <;> exact fun _ => rfl

/-- Whatever runs, and however it ends, the frames are those from before. Neither an expression nor
a call changes the locals, and a callee begins without any, in a frame over those of its caller. -/
theorem frames_and_locals_restored (env : Environment) (n : Nat) (m : Machine) :
    (∀ e, (evaluate env n e m).2.frames = m.frames ∧
      (evaluate env n e m).2.context.locals = m.context.locals) ∧
    (∀ s, (execute env n s m).2.frames = m.frames) ∧
    (∀ whole rest, (runFrom env n whole rest m).2.frames = m.frames) ∧
    (∀ name scope, (Run.subroutine env name scope m).2.frames = m.frames) ∧
    (∀ t name, (execute env n (.call t name) m).2.context.locals = m.context.locals) ∧
    ∀ t c s, env.declarations.callee? c = some s →
      let callee := (m.enter s.name).push (c.frame s)
      callee.context.locals = .empty ∧ callee.frames = c.frame s :: m.frames ∧
        invoke env n t c m = (runBody env n s.body callee).2.pop m.context.locals := by
  refine ⟨fun e => ⟨evaluate_keepsFrames n e m, evaluate_retains n e m⟩,
    fun s => execute_keepsFrames n s m, ?_⟩
  refine ⟨fun whole rest => runFrom_keepsFrames n whole rest m, ?_⟩
  refine ⟨fun name scope => subroutine_keepsFrames name scope m, ?_⟩
  exact ⟨fun t name => call_retainsLocals t name m,
    fun t c s found => ⟨rfl, rfl, invoke_eq found m⟩⟩

def twiceBody : SubroutineDeclaration :=
  ⟨.unknown, "twice", none, [
    .declare .unknown "var.x" .string,
    .branch .unknown (.ident .unknown "req.http.Inner") [
        .set .unknown "var.x" .assign (.string .unknown "inner")]
      [] (some [
        .set .unknown "var.x" .assign (.string .unknown "outer"),
        .set .unknown "req.http.Inner" .assign (.string .unknown "1"),
        .call .unknown "twice"]),
    .log .unknown (.ident .unknown "var.x")]⟩

def twiceIn : Environment := .of { Declarations.empty with subroutines := [twiceBody] } .standard

def twiceStart : Machine :=
  let m := Machine.push (.start (.start twiceIn .empty .loopback 0 (.ofSeed 0))) ⟨"vcl_recv", none⟩
  { m with context := { m.context with locals := ⟨[("var.x", .ofString "caller")]⟩ } }

theorem frames_and_locals_restored_twice :
    twiceIn.declarations.callee? (.plain "twice") = some twiceBody ∧
    (let callee := (twiceStart.enter "twice").push ⟨"twice", none⟩;
      callee.context.locals = .empty ∧ callee.frames = [⟨"twice", none⟩, ⟨"vcl_recv", none⟩] ∧
        invoke twiceIn 30 .unknown (.plain "twice") twiceStart =
          (runBody twiceIn 30 twiceBody.body callee).2.pop twiceStart.context.locals) ∧
    (invoke twiceIn 30 .unknown (.plain "twice") twiceStart).logs = ["inner", "outer"] := by
  obtain ⟨-, -, -, -, -, called⟩ := frames_and_locals_restored twiceIn 30 twiceStart
  exact ⟨rfl, called .unknown (.plain "twice") twiceBody rfl, by decide +kernel⟩

end Run

end EdgeCache
