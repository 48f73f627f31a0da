import EdgeCache.Proofs.Switch

/-! The runs that a run enters: those of the operands of an expression, of the values and lists of a
statement, and of the bodies of callees. It fails as soon as one of them fails, and with the same
failure. -/

namespace EdgeCache

open Relation (ReflTransGen)

/-- What is run: an expression, a statement, what is left of a list, or the subroutine of a stage.
The numbers tell how deep the run may go. -/
inductive Task where
  | value (n : Nat) (e : Expression)
  | effect (n : Nat) (s : Statement)
  | list (n : Nat) (whole rest : List Statement)
  | stage (name : String) (scope : Scope)

def InfixOp.Wants : InfixOp → Value → Prop
  | .and, v => v.truth? = some true
  | .or, v => v.truth? = some false
  | _, _ => True

def Builtin.Names (b : Builtin) (i : Nat) (e : Expression) : Prop :=
  ∃ t n, e = .ident t n ∧ b.takesName i = true

namespace Run

section Failures

variable {α β : Type} {x : Run α} {f : α → Run β} {m p : Machine} {a : α} {e : Failure}

def Fails (x : Run α) (m : Machine) (f : Failure) : Prop := ∃ n, x m = (.failed f, n)

theorem Fails.of_eq {y : Run α} (same : y m = x p) (h : x.Fails p e) : y.Fails m e := by
  obtain ⟨n, hn⟩ := h
  exact ⟨n, same.trans hn⟩

theorem Fails.bind (h : x.Fails m e) : (Run.bind x f).Fails m e := by
  obtain ⟨n, hn⟩ := h
  exact ⟨n, bind_of_failed hn⟩

theorem Fails.after (ran : x m = (.done a, p)) (h : (f a).Fails p e) : (Run.bind x f).Fails m e :=
  Fails.of_eq (bind_of_done ran) h

theorem Fails.pinned (t : Token) (h : x.Fails m e) (located : e.token.isSome = true) :
    (Run.pinned t x).Fails m e := by
  obtain ⟨n, hn⟩ := h
  refine ⟨n, ?_⟩
  rw [pinned_of_failed t hn, Failure.pin_of_isSome t located]

theorem Fails.inFrame {frame : Frame} (h : x.Fails (m.push frame) e) :
    (Run.inFrame frame x).Fails m e := by
  obtain ⟨n, hn⟩ := h
  refine ⟨n.pop m.context.locals, ?_⟩
  unfold Run.inFrame
  rw [hn]

theorem token_of_pinned {t : Token} (h : (Run.pinned t x).Fails m e) : e.token.isSome = true := by
  obtain ⟨n, hn⟩ := h
  unfold Run.pinned at hn
  split at hn
  · cases hn
    exact Failure.isSome_token_pin ..
  · rename_i done
    exact absurd hn (done e n)

end Failures

def TaskFails (env : Environment) : Task × Machine → Failure → Prop
  | (.value n e, m), f => (evaluate env n e).Fails m f
  | (.effect n s, m), f => (execute env n s).Fails m f
  | (.list n whole rest, m), f => (runFrom env n whole rest).Fails m f
  | (.stage name scope, m), f => (Run.subroutine env name scope).Fails m f

inductive Enters (env : Environment) : Task × Machine → Task × Machine → Prop
  | operand {n t op r m} : Enters env (.value (n + 1) (.prefixed t op r), m) (.value n r, m)
  | inner {n t e m} : Enters env (.value (n + 1) (.group t e), m) (.value n e, m)
  | left {n t l op r m} : Enters env (.value (n + 1) (.binary t l op r), m) (.value n l, m)
  | right {n t l op r m v p} (ran : evaluate env n l m = (.done v, p)) (wanted : op.Wants v) :
    Enters env (.value (n + 1) (.binary t l op r), m) (.value n r, p)
  | condition {n t c a b m} : Enters env (.value (n + 1) (.conditional t c a b), m) (.value n c, m)
  | alternative {n t c a b m yes p} (ran : condition (evaluate env n) c m = (.done yes, p)) :
    Enters env (.value (n + 1) (.conditional t c a b), m) (.value n (if yes then a else b), p)
  | argument {n t f before e after m b vs p} (plain : env.declarations.functional? f = none)
    (resolved : Builtin.resolve env m.context f = .ok b)
    (ran : arguments (evaluate env n) b 0 before m = (.done vs, p))
    (value : ¬ b.Names before.length e) :
    Enters env (.value (n + 1) (.call t f (before ++ e :: after)), m) (.value n e, p)
  | functional {n t f s m} (found : env.declarations.functional? f = some s) :
    Enters env (.value (n + 1) (.call t f []), m) (.list n s.body s.body,
      (m.enter s.name).push ⟨s.name, some s.owes⟩)
  | block {n t b m} : Enters env (.effect n (.block t b), m) (.list n b b, m)
  | assigned {n t name op e m} : Enters env (.effect n (.set t name op e), m) (.value n e, m)
  | added {n t name e m} : Enters env (.effect n (.add t name e), m) (.value n e, m)
  | called {n t name s m} (found : env.declarations.subroutine? name = some s) :
    Enters env (.effect n (.call t name), m) (.list n s.body s.body,
      (m.enter name).push ⟨s.name, none⟩)
  | test {n t c a others last before c' b after m p}
    (stands : ElseIf.mk c a :: others = before ++ .mk c' b :: after)
    (ran : choice (evaluate env n) none before m = (.done none, p)) :
    Enters env (.effect n (.branch t c a others last), m) (.value n c', p)
  | taken {n t c a others last b m p}
    (ran : choice (evaluate env n) last (.mk c a :: others) m = (.done (some b), p)) :
    Enters env (.effect n (.branch t c a others last), m) (.list n b b, p)
  | control {n t e cases default m} : Enters env (.effect n (.switch t e cases default), m)
    (.value n e, m)
  | case {n t e cases default cs c later m p q}
    (ran : chosen (evaluate env n) e cases default m = (.done cs, p))
    (fell : ReflTransGen (Falls env n) (cs, p) (c :: later, q)) :
    Enters env (.effect n (.switch t e cases default), m) (.list n c.body c.body, q)
  | logged {n t e m} : Enters env (.effect n (.log t e), m) (.value n e, m)
  | synthetic {n t e base64 m} (allowed : m.context.scope = .error) :
    Enters env (.effect n (.synthetic t e base64), m) (.value n e, m)
  | returned {n t e m k} (owed : m.frames.head?.bind Frame.returns = some k) :
    Enters env (.effect n (.ret t (some e)), m) (.value n e, m)
  | status {n t code response m} (allowed : m.context.scope.allowsError = true) :
    Enters env (.effect n (.error t (some code) response), m) (.value n code, m)
  | response {n t code response m status p} (allowed : m.context.scope.allowsError = true)
    (ran : errorStatus (evaluate env n) code m = (.done status, p)) :
    Enters env (.effect n (.error t code (some response)), m) (.value n response, p)
  | given {n t f before e after m b vs p} (resolved : Builtin.resolve env m.context f = .ok b)
    (statement : b.isStatement = true)
    (ran : arguments (evaluate env n) b 0 before m = (.done vs, p))
    (value : ¬ b.Names before.length e) :
    Enters env (.effect n (.apply t f (before ++ e :: after)), m) (.value n e, p)
  | first {n whole s rest m} :
    Enters env (.list (n + 1) whole (s :: rest), m) (.effect n s, m.note (.statement s))
  | next {n whole s rest m p} (ran : execute env n s (m.note (.statement s)) = (.done .next, p)) :
    Enters env (.list (n + 1) whole (s :: rest), m) (.list n whole rest, p)
  | jump {n whole s rest m label after p}
    (ran : execute env n s (m.note (.statement s)) = (.done (.goto label), p))
    (found : afterLabel? label whole = some after) :
    Enters env (.list (n + 1) whole (s :: rest), m) (.list n whole after, p)
  | stage {name scope s m} (found : env.declarations.subroutine? name = some s) :
    Enters env (.stage name scope, m) (.list env.patience s.body s.body,
      { (m.atStage scope).enter name with frames := ⟨name, none⟩ :: m.frames })

section Parts

variable {env : Environment} {value : Evaluator} {m p : Machine} {f : Failure}

def argument (value : Evaluator) (b : Builtin) (i : Nat) (e : Expression) : Run Value :=
  match e with
  | .ident _ n => if b.takesName i then pure (.ident n) else value e
  | _ => value e

theorem argument_eq {b : Builtin} {i : Nat} {e : Expression} (other : ¬ b.Names i e) :
    argument value b i e = value e := by
  unfold argument
  split
  · exact if_neg fun named => other ⟨_, _, rfl, named⟩
  · rfl

theorem arguments_cons (b : Builtin) (i : Nat) (e : Expression) (es : List Expression) :
    arguments value b i (e :: es) = Run.bind (argument value b i e) fun v =>
      Run.bind (arguments value b (i + 1) es) fun vs => pure (v :: vs) := by
  cases e with
  | ident t n =>
    by_cases named : b.takesName i = true <;> simp only [arguments, argument, named] <;> rfl
  | _ => rfl

theorem arguments_fails {b : Builtin} {i : Nat} {before after : List Expression} {e : Expression}
    {vs : List Value} (ran : arguments value b i before m = (.done vs, p))
    (other : ¬ b.Names (i + before.length) e) (h : (value e).Fails p f) :
    (arguments value b i (before ++ e :: after)).Fails m f := by
  induction before generalizing i vs m with
  | nil =>
    cases ran
    rw [List.nil_append, arguments_cons, argument_eq (i := i) other]
    exact h.bind
  | cons e' before ih =>
    rw [arguments_cons] at ran
    obtain ⟨v, q, first, ran⟩ := bind_eq_done ran
    obtain ⟨vs, _, rest, same⟩ := bind_eq_done ran
    cases same
    rw [List.length_cons, ← Nat.add_assoc, Nat.add_right_comm] at other
    rw [List.cons_append, arguments_cons]
    exact Fails.after first (ih rest other).bind

theorem choice_fails {last : Option (List Statement)} {before after : List ElseIf} {c : Expression}
    {b : List Statement} (ran : choice value none before m = (.done none, p))
    (h : (value c).Fails p f) :
    (choice value last (before ++ .mk c b :: after)).Fails m f := by
  induction before generalizing m with
  | nil =>
    cases ran
    exact Fails.bind (Fails.bind h)
  | cons other before ih =>
    obtain ⟨c', b'⟩ := other
    obtain ⟨yes, q, first, ran⟩ := bind_eq_done ran
    cases yes with
    | true => cases ran
    | false => exact Fails.after first (ih ran)

theorem resolved_done {env : Environment} {b : Builtin} {name : String}
    (resolved : Builtin.resolve env m.context name = .ok b) :
    asking (fun c => Builtin.resolve env c name) m = (.done b, m) := by
  show ofExcept (Builtin.resolve env m.context name) m = _
  rw [resolved]
  rfl

theorem binary_fails_left {op : InfixOp} {l r : Expression} (h : (value l).Fails m f) :
    (binary value op l r).Fails m f := by
  cases op <;> exact Fails.bind h

theorem binary_fails_right {op : InfixOp} {l r : Expression} {v : Value}
    (ran : value l m = (.done v, p)) (wanted : op.Wants v) (h : (value r).Fails p f) :
    (binary value op l r).Fails m f := by
  have undecided (decisive : Bool) (other : v.truth? = some !decisive) :
      (shortCircuit value op decisive l r).Fails m f := by
    refine Fails.after ran (Fails.after (a := !decisive) (p := p) ?_ ?_)
    · simp only [operand, Value.truth, other]
      rfl
    · cases decisive <;> exact Fails.bind h
  cases op with
  | and => exact undecided false wanted
  | or => exact undecided true wanted
  | _ => exact Fails.after ran (Fails.bind h)

theorem call_fails_argument {env : Environment} {body : Runner} {g : String} {b : Builtin}
    {before after : List Expression} {e : Expression} {vs : List Value}
    (plain : env.declarations.functional? g = none)
    (resolved : Builtin.resolve env m.context g = .ok b)
    (ran : arguments value b 0 before m = (.done vs, p)) (other : ¬ b.Names before.length e)
    (h : (value e).Fails p f) :
    (call env value body g (before ++ e :: after)).Fails m f := by
  rw [← Nat.zero_add before.length] at other
  unfold call
  rw [plain]
  exact Fails.after (resolved_done resolved) (arguments_fails ran other h).bind

theorem call_fails_body {env : Environment} {body : Runner} {g : String} {s : SubroutineDeclaration}
    (found : env.declarations.functional? g = some s)
    (h : (body s.body).Fails ((m.enter s.name).push ⟨s.name, some s.owes⟩) f) :
    (call env value body g []).Fails m f := by
  unfold call
  rw [found]
  have entered :
      (Run.bind (inFrame ⟨s.name, some s.owes⟩ (body s.body)) (resultOf s.name s.owes)).Fails
    (m.enter s.name) f := Fails.bind (Fails.inFrame h)
  exact entered

theorem giveBack_fails {e : Expression} {k : Kind}
    (owed : m.frames.head?.bind Frame.returns = some k) (h : (value e).Fails m f) :
    (giveBack value (some e)).Fails m f := by
  have same : giveBack value (some e) m = Run.bind (value e) (fun v => pure (.value v)) m := by
    unfold giveBack
    rw [owed]
    rfl
  exact Fails.of_eq same h.bind

theorem require_done {allowed : Scope → Bool} {statement : String}
    (h : allowed m.context.scope = true) :
    require allowed statement m = (.done (), m) := by
  unfold require
  rw [if_pos h]

variable {env : Environment} {body : Runner}

theorem callSubroutine_fails {name : String} {s : SubroutineDeclaration}
    (found : env.declarations.subroutine? name = some s)
    (h : (body s.body).Fails ((m.enter name).push ⟨s.name, none⟩) f) :
    (callSubroutine env body name).Fails m f := by
  simp only [callSubroutine, found]
  exact Fails.after (x := modify fun m => m.enter name) (a := ()) rfl (Fails.bind (Fails.inFrame h))

theorem branch_fails_test {c c' : Expression} {a b : List Statement}
    {others before after : List ElseIf} {last : Option (List Statement)}
    (stands : ElseIf.mk c a :: others = before ++ .mk c' b :: after)
    (ran : choice value none before m = (.done none, p)) (h : (value c').Fails p f) :
    (branch value body c a others last).Fails m f := by
  rw [branch_eq, stands]
  exact (choice_fails ran h).bind

theorem branch_fails_body {c : Expression} {a b : List Statement} {others : List ElseIf}
    {last : Option (List Statement)}
    (ran : choice value last (.mk c a :: others) m = (.done (some b), p)) (h : (body b).Fails p f) :
    (branch value body c a others last).Fails m f := by
  rw [branch_eq]
  exact Fails.after ran h

theorem raiseError_fails_status {code : Expression} {response : Option Expression}
    (allowed : m.context.scope.allowsError = true) (h : (value code).Fails m f) :
    (raiseError value (some code) response).Fails m f :=
  Fails.after (require_done allowed) (Fails.bind (Fails.bind h))

theorem raiseError_fails_text {code : Option Expression} {response : Expression} {status : Int64}
    (allowed : m.context.scope.allowsError = true)
    (ran : errorStatus value code m = (.done status, p)) (h : (value response).Fails p f) :
    (raiseError value code (some response)).Fails m f :=
  Fails.after (require_done allowed) (Fails.after ran (Fails.bind (Fails.bind h)))

theorem applyBuiltin_fails {g : String} {b : Builtin} {before after : List Expression}
    {e : Expression} {vs : List Value} (resolved : Builtin.resolve env m.context g = .ok b)
    (statement : b.isStatement = true) (ran : arguments value b 0 before m = (.done vs, p))
    (other : ¬ b.Names before.length e) (h : (value e).Fails p f) :
    (applyBuiltin env value g (before ++ e :: after)).Fails m f := by
  rw [← Nat.zero_add before.length] at other
  refine Fails.after (resolved_done resolved) ?_
  simp only [statement, Bool.not_true, Bool.false_eq_true, if_false]
  exact (arguments_fails ran other h).bind

end Parts

section Entered

variable {env : Environment} {a b : Task × Machine} {f : Failure}

theorem evaluate_succ (n : Nat) (e : Expression) :
    evaluate env (n + 1) e = evaluateWith env (evaluate env n) (fun b => runFrom env n b b) e := by
  rw [evaluate]

theorem token_of_entered (h : Enters env a b) (fails : TaskFails env b f) :
    f.token.isSome = true := by
  obtain ⟨task, m⟩ := b
  cases task with
  | value n e =>
    obtain ⟨p, hp⟩ := fails
    cases n with
    | zero =>
      rw [evaluate] at hp
      cases hp
    | succ n =>
      rw [evaluate_succ] at hp
      exact token_of_pinned ⟨p, hp⟩
  | effect n s => exact token_of_pinned fails
  | list n whole rest =>
    obtain ⟨p, hp⟩ := fails
    exact runFrom_located hp
  | stage name scope => cases h

section Runs

variable {n : Nat} {m p : Machine} {whole rest after : List Statement} {s : Statement}
    {label : String}

theorem switch_fails_case {e : Expression} {cases cs later : List Case} {default : Option Nat}
    {c : Case} {q : Machine} (ran : chosen (evaluate env n) e cases default m = (.done cs, p))
    (fell : ReflTransGen (Falls env n) (cs, p) (c :: later, q))
    (h : (runBody env n c.body).Fails q f) :
    (switch (evaluate env n) (fun b => runFrom env n b b) e cases default).Fails m f := by
  rw [switch_eq]
  exact Fails.after ran (Fails.of_eq (runCases_of_path fell) h.bind)

theorem runFrom_fails_first (h : (execute env n s).Fails (m.note (.statement s)) f) :
    (runFrom env (n + 1) whole (s :: rest)).Fails m f := by
  obtain ⟨p, hp⟩ := h
  refine ⟨p, ?_⟩
  rw [runFrom_cons, hp]

theorem runFrom_fails_next (ran : execute env n s (m.note (.statement s)) = (.done .next, p))
    (h : (runFrom env n whole rest).Fails p f) :
    (runFrom env (n + 1) whole (s :: rest)).Fails m f := by
  refine Fails.of_eq ?_ h
  rw [runFrom_cons, ran]

theorem runFrom_fails_jump
    (ran : execute env n s (m.note (.statement s)) = (.done (.goto label), p))
    (found : afterLabel? label whole = some after) (h : (runFrom env n whole after).Fails p f) :
    (runFrom env (n + 1) whole (s :: rest)).Fails m f := by
  refine Fails.of_eq ?_ h
  rw [runFrom_cons, ran]
  simp only [found]

theorem subroutine_fails {name : String} {scope : Scope} {d : SubroutineDeclaration}
    (found : env.declarations.subroutine? name = some d)
    (h : (pinned d.token (runBody env env.patience d.body)).Fails
      { (m.atStage scope).enter name with frames := ⟨name, none⟩ :: m.frames } f) :
    (Run.subroutine env name scope).Fails m f := by
  obtain ⟨q, hq⟩ := h
  refine ⟨{ q with frames := q.frames.tail }, ?_⟩
  show Run.bind (flowOf env name) _ (m.atStage scope) = _
  exact bind_of_failed (flowOf_of_declared found hq)

end Runs

/-! A task fails with the failure of what it enters. What is entered has its place by then, so that
nothing around it pins it again. -/

theorem fails_of_enters_value {n : Nat} {e : Expression} {m : Machine}
    (h : Enters env (.value n e, m) b) (fails : TaskFails env b f) :
    TaskFails env (.value n e, m) f := by
  have located := token_of_entered h fails
  have value {n : Nat} {e : Expression}
      (h : (evaluateWith env (evaluate env n) (fun b => runFrom env n b b) e).Fails m f) :
      (evaluate env (n + 1) e).Fails m f := by
    rwa [evaluate_succ]
  cases h with
  | operand => exact value (fails.bind.pinned _ located)
  | inner => exact value (Fails.pinned _ fails located)
  | left => exact value (Fails.pinned _ (binary_fails_left fails) located)
  | right ran wanted => exact value (Fails.pinned _ (binary_fails_right ran wanted fails) located)
  | condition => exact value (Fails.pinned _ (Fails.bind (Fails.bind fails)) located)
  | @alternative n t c a b m yes p ran =>
    refine value (Fails.pinned t (Fails.after ran ?_) located)
    cases yes <;> exact fails
  | argument plain resolved ran other =>
    exact value (Fails.pinned _ (call_fails_argument plain resolved ran other fails) located)
  | functional found => exact value (Fails.pinned _ (call_fails_body found fails) located)

theorem fails_of_enters_effect {n : Nat} {s : Statement} {m : Machine}
    (h : Enters env (.effect n s, m) b) (fails : TaskFails env b f) :
    TaskFails env (.effect n s, m) f := by
  have located := token_of_entered h fails
  cases h with
  | block => exact Fails.pinned _ fails located
  | assigned | added | logged | control => exact Fails.pinned _ (Fails.bind fails) located
  | called found => exact Fails.pinned _ (callSubroutine_fails found fails) located
  | test stands ran => exact Fails.pinned _ (branch_fails_test stands ran fails) located
  | taken ran => exact Fails.pinned _ (branch_fails_body ran fails) located
  | case ran fell => exact Fails.pinned _ (switch_fails_case ran fell fails) located
  | synthetic allowed =>
    exact Fails.pinned _ (Fails.after (require_done (beq_iff_eq.mpr allowed)) (Fails.bind fails))
      located
  | returned owed => exact Fails.pinned _ (giveBack_fails owed fails) located
  | status allowed => exact Fails.pinned _ (raiseError_fails_status allowed fails) located
  | response allowed ran => exact Fails.pinned _ (raiseError_fails_text allowed ran fails) located
  | given resolved statement ran other =>
    exact Fails.pinned _ (applyBuiltin_fails resolved statement ran other fails) located

theorem fails_of_enters_list {n : Nat} {whole rest : List Statement} {m : Machine}
    (h : Enters env (.list n whole rest, m) b) (fails : TaskFails env b f) :
    TaskFails env (.list n whole rest, m) f := by
  cases h with
  | first => exact runFrom_fails_first fails
  | next ran => exact runFrom_fails_next ran fails
  | jump ran found => exact runFrom_fails_jump ran found fails

theorem fails_of_enters (h : Enters env a b) (fails : TaskFails env b f) : TaskFails env a f := by
  obtain ⟨task, m⟩ := a
  cases task with
  | value n e => exact fails_of_enters_value h fails
  | effect n s => exact fails_of_enters_effect h fails
  | list n whole rest => exact fails_of_enters_list h fails
  | stage name scope =>
    have located := token_of_entered h fails
    cases h with
    | @stage _ _ s _ found => exact subroutine_fails found (Fails.pinned s.token fails located)

theorem fails_of_entered (path : ReflTransGen (Enters env) a b) (fails : TaskFails env b f) :
    TaskFails env a f := by
  induction path with
  | refl => exact fails
  | tail _ enters ih => exact ih (fails_of_enters enters fails)

end Entered

end Run

end EdgeCache
