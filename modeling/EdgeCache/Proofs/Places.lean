import EdgeCache.Proofs.Enters

/-! Where failures have their places. Whatever fails in an expression or a statement has one place,
the token of a node of the program, and that is not lost on the way out. -/

namespace EdgeCache

open Relation (ReflTransGen)

inductive Expression.HasNode (t : Token) : Expression → Prop
  | here {e : Expression} (own : e.token = t) : HasNode t e
  | part {e x : Expression} (part : x ∈ e.parts) (inner : HasNode t x) : HasNode t e

namespace Statement

def cases : Statement → List Case
  | switch _ _ cs _ => cs
  | _ => []

inductive HasNode (t : Token) : Statement → Prop
  | here {s : Statement} (own : s.token = t) : HasNode t s
  | value {s : Statement} {e : Expression} (stands : e ∈ s.values) (inner : e.HasNode t) :
    HasNode t s
  | case {s : Statement} {c : Case} (stands : c ∈ s.cases) (own : c.token = t) : HasNode t s
  | inner {s s' : Statement} {b : List Statement} (list : b ∈ s.lists) (stands : s' ∈ b)
    (inner : HasNode t s') :
    HasNode t s

end Statement

def Program.HasNode (t : Token) (p : Program) : Prop :=
  ∃ d, .subroutine d ∈ p.declarations ∧ (d.token = t ∨ ∃ s ∈ d.body, s.HasNode t)

def Expression.Throughout (p : Token → Prop) (e : Expression) : Prop := ∀ t, e.HasNode t → p t

def Statement.Throughout (p : Token → Prop) (b : List Statement) : Prop :=
  ∀ s ∈ b, ∀ t, s.HasNode t → p t

namespace Failure

def At (p : Token → Prop) (f : Failure) : Prop := ∃ t c, f = .located t (.of c) ∧ p t

def Loose (p : Token → Prop) (f : Failure) : Prop := (∃ c, f = .of c) ∨ f.At p

end Failure

namespace Run

section Failures

variable {α β : Type} {p : Token → Prop} {x : Run α} {f : α → Run β}

/-- Every failure of a run has one place, which has a property. -/
def Placed (p : Token → Prop) (x : Run α) : Prop := ∀ m e, x.Fails m e → e.At p

def Loose (p : Token → Prop) (x : Run α) : Prop := ∀ m e, x.Fails m e → e.Loose p

theorem Placed.loose (h : x.Placed p) : x.Loose p := fun m e fails => .inr (h m e fails)

theorem Loose.pinned {t : Token} (h : x.Loose p) (own : p t) : (Run.pinned t x).Placed p := by
  rintro m e ⟨n, hn⟩
  unfold Run.pinned at hn
  split at hn
  · rename_i e' _ failed
    cases hn
    rcases h m e' ⟨n, failed⟩ with ⟨c, rfl⟩ | ⟨t', c, rfl, there⟩
    · exact ⟨t, c, rfl, own⟩
    · exact ⟨t', c, rfl, there⟩
  · rename_i other
    exact absurd hn (other e n)

theorem loose_done (h : ∀ m, ∃ a n, x m = (.done a, n)) : x.Loose p := by
  rintro m e ⟨n, hn⟩
  obtain ⟨a, n', done⟩ := h m
  cases done.symm.trans hn

theorem loose_pure (a : α) : (pure a : Run α).Loose p := loose_done fun m => ⟨a, m, rfl⟩

theorem loose_raise (c : Cause) : (raise c : Run α).Loose p := by
  rintro m e ⟨n, hn⟩
  cases hn
  exact .inl ⟨c, rfl⟩

theorem loose_ofExcept (r : Except Cause α) : (ofExcept r).Loose p := by
  cases r with
  | ok a => exact loose_pure a
  | error c => exact loose_raise c

theorem loose_asking (g : Context → Except Cause α) : (asking g).Loose p :=
  fun m e fails => loose_ofExcept (g m.context) m e fails

theorem loose_of_stopped {s : Stop Cause} {e : Failure} (h : (stopped s : Outcome α) = .failed e) :
    e.Loose p := by
  cases s <;> cases h
  exact .inl ⟨_, rfl⟩

theorem loose_reading (g : Context → Except (Stop Cause) α) : (reading g).Loose p := by
  rintro m e ⟨n, hn⟩
  unfold reading at hn
  split at hn
  · cases hn
  · exact loose_of_stopped (congrArg Prod.fst hn)

theorem loose_editing (g : EStateM (Stop Cause) Context Unit) : (editing g).Loose p := by
  rintro m e ⟨n, hn⟩
  unfold editing at hn
  split at hn
  · cases hn
  · exact loose_of_stopped (congrArg Prod.fst hn)

theorem loose_require (allowed : Scope → Bool) (statement : String) :
    (require allowed statement).Loose p := by
  rintro m e ⟨n, hn⟩
  unfold require at hn
  split at hn <;> cases hn
  exact .inl ⟨_, rfl⟩

theorem Loose.bind_done (hx : x.Loose p) (hf : ∀ m a n, x m = (.done a, n) → (f a).Loose p) :
    (Run.bind x f).Loose p := by
  rintro m e ⟨n, hn⟩
  unfold Run.bind at hn
  split at hn
  · rename_i done
    exact hf m _ _ done _ e ⟨n, hn⟩
  · rename_i failed
    cases hn
    exact hx m _ ⟨_, failed⟩
  · cases hn

theorem Loose.bind (hx : x.Loose p) (hf : ∀ a, (f a).Loose p) : (Run.bind x f).Loose p :=
  hx.bind_done fun _ a _ _ => hf a

theorem Loose.inFrame {frame : Frame} (hx : x.Loose p) : (Run.inFrame frame x).Loose p := by
  rintro m e ⟨n, hn⟩
  obtain ⟨failed, -⟩ := Prod.mk.inj hn
  exact hx (m.push frame) e ⟨_, Prod.ext failed rfl⟩

end Failures

section Expressions

variable {env : Environment} {p : Token → Prop} {value : Evaluator} {body : Runner}

theorem named_loose (name : String) : (named env name).Loose p := by
  unfold named
  dsimp only
  split
  · exact loose_pure _
  · exact loose_pure _
  · split
    · exact loose_pure _
    · split
      · exact loose_pure _
      · exact loose_reading _

theorem operate_loose (op : InfixOp) (l r : Value) : (operate op l r).Loose p := by
  rintro m e ⟨n, hn⟩
  unfold operate at hn
  dsimp only at hn
  split at hn <;> cases hn
  exact .inl ⟨_, rfl⟩

theorem callBuiltin_loose (b : Builtin) (args : List Value) : (callBuiltin env b args).Loose p := by
  rintro m e ⟨n, hn⟩
  unfold callBuiltin at hn
  split at hn
  · cases hn
  · cases hn
  · exact loose_of_stopped (congrArg Prod.fst hn)

theorem resultOf_loose (name : String) (returns : Kind) (flow : Flow) :
    (resultOf name returns flow).Loose p := by
  unfold resultOf
  split
  · split
    · exact loose_raise _
    · exact loose_pure _
  · exact loose_raise _
  · exact loose_pure _

variable (hv : ∀ e : Expression, e.Throughout p → (value e).Loose p)
  (hb : ∀ b, Statement.Throughout p b → (body b).Loose p)
  (hd : ∀ s, env.declarations.Subroutine s → Statement.Throughout p s.body)
include hv

theorem condition_loose {e : Expression} (he : e.Throughout p) : (condition value e).Loose p :=
  (hv e he).bind fun _ => ((loose_ofExcept _).pinned (he _ (.here rfl))).loose

theorem shortCircuit_loose (op : InfixOp) (decisive : Bool) {left right : Expression}
    (hl : left.Throughout p) (hr : right.Throughout p) :
    (shortCircuit value op decisive left right).Loose p := by
  refine (hv left hl).bind fun _ => Loose.bind (loose_ofExcept _) fun a => ?_
  split
  · exact loose_pure _
  · exact (hv right hr).bind fun r => Loose.bind (loose_ofExcept _) fun b => loose_pure _

theorem binary_loose (op : InfixOp) {left right : Expression} (hl : left.Throughout p)
    (hr : right.Throughout p) :
    (binary value op left right).Loose p := by
  unfold binary
  split
  · exact shortCircuit_loose hv _ _ hl hr
  · exact shortCircuit_loose hv _ _ hl hr
  · exact (hv left hl).bind fun l => (hv right hr).bind fun r => operate_loose op l r

theorem arguments_loose (b : Builtin) (i : Nat) {es : List Expression}
    (he : ∀ e ∈ es, e.Throughout p) :
    (arguments value b i es).Loose p := by
  induction es generalizing i with
  | nil => exact loose_pure _
  | cons e es ih =>
    obtain ⟨first, rest⟩ := List.forall_mem_cons.mp he
    rw [arguments_cons]
    have taken : (argument value b i e).Loose p := by
      unfold argument
      split
      · split
        · exact loose_pure _
        · exact hv _ first
      · exact hv e first
    exact taken.bind fun v => (ih (i + 1) rest).bind fun vs => loose_pure _

omit hv in
include hb hd in
theorem callFunctional_loose {s : SubroutineDeclaration} (hs : env.declarations.Subroutine s)
    (arguments : Nat) :
    (callFunctional body s arguments).Loose p := by
  unfold callFunctional
  split
  · exact loose_raise _
  · have entered : (modify fun m => m.enter s.name).Loose p := loose_done fun m => ⟨(), _, rfl⟩
    exact entered.bind fun _ => (hb s.body (hd s hs)).inFrame.bind fun flow =>
      resultOf_loose _ _ flow

include hb hd in
theorem call_loose (name : String) {es : List Expression} (he : ∀ e ∈ es, e.Throughout p) :
    (call env value body name es).Loose p := by
  unfold call
  split
  · rename_i s found
    exact callFunctional_loose hb hd (.inr (List.mem_of_find?_eq_some found)) _
  · exact (loose_asking _).bind fun b => (arguments_loose hv b 0 he).bind fun args =>
      callBuiltin_loose b args

include hb hd in
theorem evaluateWith_placed {e : Expression} (he : e.Throughout p) :
    (evaluateWith env value body e).Placed p := by
  have part {x : Expression} (h : x ∈ e.parts) : x.Throughout p :=
    fun t inner => he t (.part h inner)
  refine Loose.pinned ?_ (he _ (.here rfl))
  cases e with
  | ident _ n => exact named_loose n
  | ip | rtime => exact loose_ofExcept _
  | string | integer | float | boolean => exact loose_pure _
  | «prefixed» _ op r => exact (hv r (part List.mem_cons_self)).bind fun v => loose_ofExcept _
  | group _ e => exact hv e (part List.mem_cons_self)
  | binary _ l op r =>
    exact binary_loose hv op (part List.mem_cons_self)
      (part (List.mem_cons_of_mem _ List.mem_cons_self))
  | conditional _ c a b =>
    refine (condition_loose hv (part List.mem_cons_self)).bind fun yes => ?_
    cases yes
    · exact hv b (part (by simp [Expression.parts]))
    · exact hv a (part (by simp [Expression.parts]))
  | call _ f es => exact call_loose hv hb hd f fun e h => part h

end Expressions

section Statements

variable {env : Environment} {p : Token → Prop} {value : Evaluator} {body : Runner}

theorem stateOf_loose (e : Expression) : (stateOf e).Loose p := by
  rintro m f ⟨n, hn⟩
  unfold stateOf at hn
  dsimp only at hn
  split at hn
  · split at hn <;> cases hn
    exact .inl ⟨_, rfl⟩
  · cases hn
    exact .inl ⟨_, rfl⟩

theorem jump_loose (label : String) : (jump env label).Loose p := by
  rintro m f ⟨n, hn⟩
  rcases jump_eq env label m with go | undefined
  · cases go.symm.trans hn
  · cases undefined.symm.trans hn
    exact .inl ⟨_, rfl⟩

theorem casesFrom_loose (subject : String) {cases : List Case} (hc : ∀ c ∈ cases, p c.token) :
    (casesFrom subject cases).Loose p := by
  induction cases with
  | nil => exact loose_pure _
  | cons c cases ih =>
    obtain ⟨first, rest⟩ := List.forall_mem_cons.mp hc
    have taken : (takes subject c).Loose p := by
      rintro m f ⟨n, hn⟩
      unfold takes at hn
      split at hn
      · cases hn
      · cases hn
      · split at hn <;> cases hn
        exact .inr ⟨_, _, rfl, first⟩
    refine taken.bind fun hit => ?_
    split
    · exact loose_pure _
    · exact ih rest

variable (hv : ∀ e : Expression, e.Throughout p → (value e).Loose p)
  (hb : ∀ b, Statement.Throughout p b → (body b).Loose p)
  (hd : ∀ s, env.declarations.Subroutine s → Statement.Throughout p s.body)

include hb in
theorem runCases_loose {cases : List Case} (hc : ∀ c ∈ cases, Statement.Throughout p c.body) :
    (runCases body cases).Loose p := by
  induction cases with
  | nil => exact loose_pure _
  | cons c cases ih =>
    obtain ⟨first, rest⟩ := List.forall_mem_cons.mp hc
    refine (hb c.body first).bind fun flow => ?_
    split
    · exact loose_pure _
    · split
      · exact ih rest
      · exact loose_pure _
    · exact loose_pure _

include hb hd in
theorem callSubroutine_loose (name : String) : (callSubroutine env body name).Loose p := by
  unfold callSubroutine
  split
  · exact loose_raise _
  · rename_i s found
    have entered : (modify fun m => m.enter name).Loose p := loose_done fun m => ⟨(), _, rfl⟩
    have declared := hd s (.inl (List.mem_of_find?_eq_some found))
    refine entered.bind fun _ => (hb s.body declared).inFrame.bind fun flow => ?_
    split <;> first | exact loose_pure _ | exact loose_raise _

include hv

theorem choice_loose (last : Option (List Statement)) {others : List ElseIf}
    (ho : ∀ o ∈ others, o.condition.Throughout p) : (choice value last others).Loose p := by
  induction others with
  | nil => exact loose_pure _
  | cons other others ih =>
    obtain ⟨first, rest⟩ := List.forall_mem_cons.mp ho
    obtain ⟨c, b⟩ := other
    refine (condition_loose hv first).bind fun yes => ?_
    split
    · exact loose_pure _
    · exact ih rest

theorem chosen_loose {control : Expression} (he : control.Throughout p) {cases : List Case}
    (hc : ∀ c ∈ cases, p c.token) (default : Option Nat) :
    (chosen value control cases default).Loose p := by
  refine (hv control he).bind fun subject => (casesFrom_loose subject.text hc).bind fun taken => ?_
  split <;> exact loose_pure _

theorem giveBack_loose {e : Option Expression} (he : ∀ x ∈ e, x.Throughout p) :
    (giveBack value e).Loose p := by
  rintro m f fails
  unfold Fails giveBack at fails
  split at fails
  · obtain ⟨n, hn⟩ := fails
    cases hn
  · rename_i x _
    have given : (Run.bind (value x) fun v => pure (Flow.value v)).Loose p :=
      (hv x (he x rfl)).bind fun v => loose_pure _
    exact given m f fails
  · obtain ⟨n, hn⟩ := fails
    cases hn
  · exact stateOf_loose _ m f fails

theorem integer_loose (context : String) {e : Expression} (he : e.Throughout p) :
    (integer value context e).Loose p := by
  refine (hv e he).bind fun v => ?_
  split
  · exact loose_pure _
  · rintro m f ⟨n, hn⟩
    cases hn
    exact .inr ⟨_, _, rfl, he _ (.here rfl)⟩

theorem raiseError_loose {code response : Option Expression} (hc : ∀ x ∈ code, x.Throughout p)
    (hr : ∀ x ∈ response, x.Throughout p) : (raiseError value code response).Loose p := by
  have status : (errorStatus value code).Loose p := by
    cases code with
    | none => exact loose_pure _
    | some e => exact integer_loose hv _ (hc e rfl)
  have text (status : Int64) : (errorText value status response).Loose p := by
    cases response with
    | none => exact loose_pure _
    | some e => exact (hv e (hr e rfl)).bind fun v => loose_pure _
  refine (loose_require _ _).bind fun _ => status.bind fun status => (text status).bind
    fun text => ?_
  exact loose_done fun m => ⟨_, _, rfl⟩

theorem synthesize_loose {e : Expression} (he : e.Throughout p) (base64 : Bool) :
    (synthesize value e base64).Loose p := by
  refine (loose_require _ _).bind fun _ => (hv e he).bind fun v => (loose_ofExcept _).bind
    fun text => ?_
  exact loose_done fun m => ⟨_, _, rfl⟩

theorem applyBuiltin_loose (name : String) {es : List Expression} (he : ∀ e ∈ es, e.Throughout p) :
    (applyBuiltin env value name es).Loose p := by
  refine (loose_asking _).bind fun b => ?_
  split
  · exact loose_raise _
  · refine (arguments_loose hv b 0 he).bind fun args => Loose.bind ?_ fun _ => loose_pure _
    exact (callBuiltin_loose b args).bind fun _ => loose_pure _

include hb hd in
theorem executeWith_placed {s : Statement} (hs : ∀ t, s.HasNode t → p t) :
    (executeWith env value body s).Placed p := by
  have held {e : Expression} (h : e ∈ s.values) : e.Throughout p :=
    fun t inner => hs t (.value h inner)
  have within {b : List Statement} (h : b ∈ s.lists) : Statement.Throughout p b :=
    fun s' stands t inner => hs t (.inner h stands inner)
  have next {α : Type} {x : Run α} (h : x.Loose p) : (Run.bind x fun _ => pure Flow.next).Loose p :=
    h.bind fun _ => loose_pure _
  refine Loose.pinned ?_ (hs _ (.here rfl))
  cases s with
  | block _ b => exact hb b (within List.mem_cons_self)
  | «declare» | esi => exact loose_done fun m => ⟨_, _, rfl⟩
  | «set» _ n op e => exact (hv e (held List.mem_cons_self)).bind fun v => next (loose_editing _)
  | «unset» _ n => exact next (loose_editing _)
  | add _ n e => exact (hv e (held List.mem_cons_self)).bind fun v => next (loose_editing _)
  | call _ n => exact callSubroutine_loose hb hd n
  | branch _ c a others last =>
    show (branch value body c a others last).Loose p
    rw [branch_eq]
    have tested : ∀ o ∈ ElseIf.mk c a :: others, o.condition.Throughout p := by
      refine List.forall_mem_cons.mpr ⟨held List.mem_cons_self, fun o ho => ?_⟩
      exact held (List.mem_cons_of_mem _ (List.mem_map_of_mem ho))
    refine (choice_loose hv last tested).bind_done fun m b m' chosen => ?_
    cases b with
    | none => exact loose_pure _
    | some b => exact hb b (within (choice_mem chosen))
  | switch _ e cases default =>
    show (switch value body e cases default).Loose p
    rw [switch_eq]
    have tests : ∀ c ∈ cases, p c.token := fun c hc => hs _ (.case hc rfl)
    refine (chosen_loose hv (held List.mem_cons_self) tests default).bind_done
      fun m cs m' chosen => ?_
    exact runCases_loose hb fun c hc => within (List.mem_map_of_mem (chosen_subset chosen hc))
  | restart _ =>
    refine (loose_require _ _).bind fun _ => ?_
    exact loose_done fun m => ⟨_, _, rfl⟩
  | log _ e =>
    refine (hv e (held List.mem_cons_self)).bind fun v => ?_
    exact loose_done fun m => ⟨_, _, rfl⟩
  | synthetic _ e base64 => exact synthesize_loose hv (held List.mem_cons_self) base64
  | ret _ e => exact giveBack_loose hv fun x hx => held (Option.mem_toList.mpr hx)
  | error _ code response =>
    exact raiseError_loose hv (fun x hx => held (List.mem_append_left _ (Option.mem_toList.mpr hx)))
      fun x hx => held (List.mem_append_right _ (Option.mem_toList.mpr hx))
  | goto _ l => exact jump_loose l
  | label | leave => exact loose_pure _
  | apply _ f es => exact applyBuiltin_loose hv f fun e h => held h

end Statements

section Programs

variable {env : Environment} {p : Token → Prop}
  (hd : ∀ s, env.declarations.Subroutine s → Statement.Throughout p s.body)
include hd

theorem placed (n : Nat) : (∀ e : Expression, e.Throughout p → (evaluate env n e).Placed p) ∧
    ∀ whole rest, Statement.Throughout p whole → Statement.Throughout p rest →
    (runFrom env n whole rest).Placed p := by
  -- on how deep the run may go, for expressions and lists together
  induction n with
  | zero =>
    constructor
    · rintro e - m f ⟨k, hk⟩
      rw [evaluate] at hk
      cases hk
    · rintro whole rest - - m f ⟨k, hk⟩
      rw [runFrom] at hk
      cases hk
  | succ n ih =>
    obtain ⟨ihValue, ihList⟩ := ih
    have value (e : Expression) (he : e.Throughout p) : (evaluate env n e).Loose p :=
      (ihValue e he).loose
    have body (b : List Statement) (hb : Statement.Throughout p b) : (runFrom env n b b).Loose p :=
      (ihList b b hb hb).loose
    constructor
    · intro e he
      rw [evaluate_succ]
      exact evaluateWith_placed value body hd he
    · rintro whole rest hw hr m f ⟨k, hk⟩
      cases rest with
      | nil =>
        rw [runFrom] at hk
        cases hk
      | cons s rest =>
        obtain ⟨first, hr⟩ := List.forall_mem_cons.mp hr
        have executed : (execute env n s).Placed p := executeWith_placed value body hd first
        rw [runFrom_cons] at hk
        split at hk
        · exact ihList whole rest hw hr _ f ⟨k, hk⟩
        · split at hk
          · rename_i after found
            -- what follows a label is still a part of the whole list
            obtain ⟨before, t, rfl⟩ := afterLabel?_eq_some found
            have hafter : Statement.Throughout p after := fun s hs =>
              hw s (List.mem_append_right _ (List.mem_cons_of_mem _ hs))
            exact ihList _ after hw hafter _ f ⟨k, hk⟩
          · cases hk
        · exact executed _ f ⟨k, hk⟩

omit hd in
theorem fails_subroutine {name : String} {scope : Scope} {m : Machine} {f : Failure}
    (fails : (Run.subroutine env name scope).Fails m f) :
    (flowOf env name).Fails (m.atStage scope) f ∨
      f.token = none ∧ ∃ label k, flowOf env name (m.atStage scope) = (.done (.goto label), k) := by
  obtain ⟨n, hn⟩ := fails
  have run : Run.bind (flowOf env name)
      (fun flow => Run.bind (asking fun c => endingOf scope c flow) fun ending =>
      Run.bind (modifyContext fun c => { c with ending := some ending }) fun _ => pure ending)
        (m.atStage scope) =
        (.failed f, n) := hn
  cases ran : flowOf env name (m.atStage scope) with
  | mk outcome k =>
    unfold Run.bind at run
    rw [ran] at run
    cases outcome with
    | failed e =>
      cases run
      exact .inl ⟨_, ran⟩
    | halted => cases run
    | done flow =>
      cases flow with
      | goto label =>
        cases run
        exact .inr ⟨rfl, label, _, rfl⟩
      | returned state => cases state <;> cases run
      | _ => cases run

omit hd in
theorem ran_of_flowOf {name : String} {s : SubroutineDeclaration} {m k : Machine} {r : Outcome Flow}
    (found : env.declarations.subroutine? name = some s) (h : flowOf env name m = (r, k)) :
    ∃ n, pinned s.token (runBody env env.patience s.body)
      { m.enter name with frames := ⟨name, none⟩ :: m.frames } =
      (r, n) := by
  obtain ⟨same, -⟩ := Prod.mk.inj ((flowOf_of_declared found rfl).symm.trans h)
  exact ⟨_, Prod.ext same rfl⟩

omit hd in
theorem flowOf_undeclared {name : String} (h : env.declarations.subroutine? name = none)
    {m : Machine} {f : Failure} (fails : (flowOf env name).Fails m f) :
    f = .of (.undefinedSubroutine name) := by
  obtain ⟨n, hn⟩ := fails
  simp only [flowOf, h] at hn
  split at hn <;> cases hn
  rfl

end Programs

section Places

variable {env : Environment} {p : Program} {name : String} {s : SubroutineDeclaration}
    {scope : Scope} {m : Machine} {f : Failure}

theorem placed_of_flowOf (loaded : Declarations.load p = .ok env.declarations)
    (found : env.declarations.subroutine? name = some s) (fails : (flowOf env name).Fails m f) :
    f.At (p.HasNode ·) := by
  have bodies (s : SubroutineDeclaration) (hs : env.declarations.Subroutine s) :
      Statement.Throughout (p.HasNode ·) s.body := fun s' stands t node =>
    ⟨s, Declarations.subroutine_of_load loaded hs, .inr ⟨s', stands, node⟩⟩
  have declared : env.declarations.Subroutine s := .inl (List.mem_of_find?_eq_some found)
  have ran : (pinned s.token (runBody env env.patience s.body)).Placed (p.HasNode ·) :=
    ((placed bodies _).2 _ _ (bodies s declared) (bodies s declared)).loose.pinned
      ⟨s, Declarations.subroutine_of_load loaded declared, .inl rfl⟩
  obtain ⟨n, hn⟩ := fails
  exact ran _ f (ran_of_flowOf found hn)

theorem placed_subroutine_iff (loaded : Declarations.load p = .ok env.declarations)
    (fails : (Run.subroutine env name scope).Fails m f) :
    f.At (p.HasNode ·) ↔ (∃ s, env.declarations.subroutine? name = some s) ∧
      ∀ label k, flowOf env name (m.atStage scope) ≠ (.done (.goto label), k) := by
  -- either the body fails, or it ends with a jump, and that failure is not pinned
  rcases fails_subroutine fails with inFlow | ⟨bare, label, k, jumped⟩
  · cases found : env.declarations.subroutine? name with
    | none =>
      rw [flowOf_undeclared found inFlow]
      exact iff_of_false (fun ⟨_, _, same, _⟩ => nomatch same) fun ⟨⟨_, h⟩, _⟩ => nomatch h
    | some s =>
      refine iff_of_true (placed_of_flowOf loaded found inFlow) ⟨⟨s, rfl⟩, fun label k jumped => ?_⟩
      obtain ⟨n, hn⟩ := inFlow
      cases jumped.symm.trans hn
  · refine iff_of_false ?_ fun ⟨_, stays⟩ => stays label k jumped
    rintro ⟨t, c, rfl, -⟩
    cases bare

/-- A body whose jumps all find their labels does not end with one. -/
theorem not_jumped_of_resolved (loaded : Declarations.load p = .ok env.declarations)
    (found : env.declarations.subroutine? name = some s) (resolved : Statement.Resolved s.body)
    (label : String) (k : Machine) : flowOf env name m ≠ (.done (.goto label), k) := by
  intro jumped
  have declared : env.declarations.Subroutine s := .inl (List.mem_of_find?_eq_some found)
  obtain ⟨k', ended⟩ := ran_of_flowOf found jumped
  let entered : Machine := { m.enter name with frames := ⟨name, none⟩ :: m.frames }
  have lands : Control.Lands env (Control.start s.body entered) Control.stopped
      (runBody env env.patience s.body entered) := Control.runBody_lands env.patience s.body entered
  have jumps : runBody env env.patience s.body entered = (.done (.goto label), k') :=
    pinned_eq_done ended
  rw [jumps] at lands
  have named : entered.frames.head?.map Frame.name = some s.name :=
    congrArg some (Declarations.name_of_subroutine? found).symm
  exact Control.not_missed_of_path (Declarations.registered_of_load loaded) declared resolved named
    lands (.stops label)

/-- A failure of the subroutine of a stage has one place, that of a node of the program, exactly if
the subroutine is declared and its body does not end with a jump; so it has one if every jump in the
body finds its label in a list around it. And every failure with its place goes out unchanged
through all expressions, statements and calls around it. -/
theorem failures_placed_iff (loaded : Declarations.load p = .ok env.declarations) :
    (∀ name scope m f, (Run.subroutine env name scope).Fails m f →
      (f.At (p.HasNode ·) ↔ (∃ s, env.declarations.subroutine? name = some s) ∧
        ∀ label k, flowOf env name (m.atStage scope) ≠ (.done (.goto label), k))) ∧
    (∀ name s scope m f, env.declarations.subroutine? name = some s → Statement.Resolved s.body →
      (Run.subroutine env name scope).Fails m f → f.At (p.HasNode ·)) ∧
    ∀ a b f, ReflTransGen (Enters env) a b → TaskFails env b f → TaskFails env a f := by
  refine ⟨fun name scope m f fails => placed_subroutine_iff loaded fails, ?_,
    fun a b f path fails => fails_of_entered path fails⟩
  intro name s scope m f found resolved fails
  exact (placed_subroutine_iff loaded fails).mpr
    ⟨⟨s, found⟩, not_jumped_of_resolved loaded found resolved⟩

def negation : Expression := .prefixed ⟨"", 8, 6⟩ .minus (.string ⟨"", 8, 7⟩ "text")

def negatingBody : SubroutineDeclaration :=
  ⟨⟨"", 6, 0⟩, "inner", none, [.block ⟨"", 7, 2⟩ [.log ⟨"", 8, 4⟩ negation]]⟩

def negatingCaller : SubroutineDeclaration :=
  ⟨⟨"", 1, 0⟩, "vcl_recv", none, [
    .branch ⟨"", 2, 2⟩ (.boolean ⟨"", 2, 6⟩ true) [.call ⟨"", 3, 4⟩ "inner"] [] none]⟩

def negating : Program := ⟨[.subroutine negatingCaller, .subroutine negatingBody]⟩

def negatingIn : Environment :=
  .of { Declarations.empty with subroutines := [negatingCaller, negatingBody] } .standard

def negatingStart : Machine := .start (.start negatingIn .empty .loopback 0 (.ofSeed 0))

theorem failures_placed_negating :
    let failure : Failure := .located ⟨"", 8, 6⟩ (.of (.value (.unsupportedOperator "-" .string)))
    Declarations.load negating = .ok negatingIn.declarations ∧
      ((Run.subroutine negatingIn "vcl_recv" .recv).Fails negatingStart failure ∧
        failure.At (negating.HasNode ·)) ∧
      ∃ m, TaskFails negatingIn (.value 7 negation, m) failure ∧
        TaskFails negatingIn (.effect 9 (.call ⟨"", 3, 4⟩ "inner"), negatingStart) failure := by
  intro failure
  have loaded : Declarations.load negating = .ok negatingIn.declarations := rfl
  obtain ⟨located, -, out⟩ := failures_placed_iff loaded
  have fails : (Run.subroutine negatingIn "vcl_recv" .recv).Fails negatingStart failure := ⟨_, rfl⟩
  refine ⟨loaded,
    ⟨fails, (located _ _ _ _ fails).mpr ⟨⟨negatingCaller, rfl⟩, fun label k jumped => ?_⟩⟩, ?_⟩
  · have ran : flowOf negatingIn "vcl_recv" (negatingStart.atStage .recv) = (.failed failure, _) :=
      rfl
    cases ran.symm.trans jumped
  · obtain ⟨m, path⟩ : ∃ m, ReflTransGen (Enters negatingIn)
        (.effect 9 (.call ⟨"", 3, 4⟩ "inner"), negatingStart) (.value 7 negation, m) :=
      ⟨_, .head (.called rfl) (.head .first (.head .block (.head .first (.single .logged))))⟩
    have inner : TaskFails negatingIn (.value 7 negation, m) failure := ⟨m, rfl⟩
    exact ⟨m, inner, out _ _ _ path inner⟩

def astray : SubroutineDeclaration :=
  ⟨.unknown, "vcl_recv", none, [.goto .unknown "x", .block .unknown [.label .unknown "x"]]⟩

def astrayIn : Environment :=
  .of { Declarations.empty with subroutines := [astray], labels := [⟨"x", "vcl_recv"⟩] } .standard

/-- The jump gets out of the body, and its failure has no place. -/
theorem failure_unplaced_astray :
    Declarations.load ⟨[.subroutine astray]⟩ = .ok astrayIn.declarations ∧
      ∃ f, (Run.subroutine astrayIn "vcl_recv" .recv).Fails
        (.start (.start astrayIn .empty .loopback 0 (.ofSeed 0))) f ∧
        ¬ f.At (Program.HasNode · ⟨[.subroutine astray]⟩) :=
  ⟨rfl, .of (.undefinedGoto "x"), ⟨_, rfl⟩, fun ⟨_, _, same, _⟩ => nomatch same⟩

end Places

end Run

end EdgeCache
