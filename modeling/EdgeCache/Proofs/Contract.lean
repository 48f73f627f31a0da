import EdgeCache.Proofs.Act
import EdgeCache.Proofs.Atomic
import EdgeCache.Proofs.Cause
import EdgeCache.Proofs.InPlace
import EdgeCache.Proofs.Mention
import EdgeCache.Proofs.Results

/-! What holds of every run of every program. A contract says what has to be true of the values and
of the machine on the way, and how the machines before and after are related; its laws are about the
primitive acts. The meaning of expressions and statements is then taken apart once, for all
contracts. -/

namespace EdgeCache

def Flow.stop (flow : Flow) (c : Context) : Option Ending :=
  match flow with
  | .restart => some .restart
  | .error => some (Run.raisedError c)
  | _ => none

def Flow.isStop : Flow → Bool
  | .restart | .error => true
  | _ => false

def Flow.Fits (value : Value → Prop) (s : Scope) : Flow → Prop
  | .value v => value v
  | .returned (some state) => state ∈ s.legalReturns
  | .restart => s.allowsRestart = true
  | .error => s.allowsError = true
  | _ => True

def Ending.Fits (s : Scope) : Ending → Prop
  | .returned state => s ≠ .unknown → state ∈ s.legalReturns
  | .restart => s.allowsRestart = true
  | .error .. => s.allowsError = true

def Ending.stop : Ending → Option Ending
  | .returned _ => none
  | e => some e

def Machine.atStage (m : Machine) (s : Scope) : Machine :=
  { m with context := { m.context.enter s with locals := .empty } }

def Machine.ended (m : Machine) (e : Ending) : Machine :=
  { m with context := { m.context with ending := some e } }

def Frame.passes (f : Frame) (e : Option Ending) : Option Ending :=
  if f.returns.isNone then e else none

/-- `text` is to hold of the string literals, `value` of the values of expressions, `holds` of the
machine at all times, and `run m e n` of runs from `m` to `n`, where `e` is what they end the stage
with, if they do. -/
structure Contract (env : Environment) where
  text : String → Prop
  value : Value → Prop
  holds : Machine → Prop
  run : Machine → Option Ending → Machine → Prop
  declared : ∀ {s}, env.declarations.Subroutine s → Statement.AllWithin text s.body
  literal : ∀ {s}, text s → value (Value.ofString s).asLiteral
  made : ∀ {v}, v.Made env.declarations → value v
  read : ∀ {m name v}, holds m → m.context.getVariable env name = .ok v → value v
  refl : ∀ m, run m none m
  trans : ∀ {m n p e}, run m none n → run n e p → run m e p
  scope : ∀ {m e n}, run m e n → n.context.scope = m.context.scope
  act : ∀ {m n}, holds m → Act env value m n → holds n ∧ run m none n
  restart : ∀ {m}, holds m → m.context.scope.allowsRestart = true →
    holds (m.transfer .restart) ∧ run m (some .restart) (m.transfer .restart)
  error : ∀ {m} status text, holds m → m.context.scope.allowsError = true →
    holds (m.raise status text) ∧ run m (some (.error status text)) (m.raise status text)
  push : ∀ {m} f, holds m → holds (m.push f)
  pop : ∀ {m n}, holds m → holds n → holds (n.pop m.context.locals)
  framed : ∀ {m f e n} locals, run (m.push f) e n → run m (f.passes e) (n.pop locals)

/-- What is promised of the results of a run: what they end the stage with, and what holds of them
in that stage. -/
structure Promise (α : Type) where
  stop : α → Context → Option Ending
  fits : α → Scope → Prop

def Promise.that {α : Type} (p : α → Prop) : Promise α := ⟨fun _ _ => none, fun a _ => p a⟩

namespace Contract

variable {env : Environment} (d : Contract env) {α β : Type}

def Verdict (q : Promise α) (m : Machine) : Outcome α × Machine → Prop
  | (.done a, n) => d.holds n ∧ d.run m (q.stop a n.context) n ∧ q.fits a n.context.scope
  | (.failed f, n) => f.cause.isLocal = true ∧ d.holds n ∧ d.run m none n
  | (.halted _, n) => d.holds n ∧ d.run m none n

structure Obeys (q : Promise α) (x : Run α) : Prop where
  verdict : ∀ {m}, d.holds m → d.Verdict q m (x m)

abbrev Keeps (x : Run α) : Prop := d.Obeys (.that fun _ => True) x

abbrev Gives (x : Run Value) : Prop := d.Obeys (.that d.value) x

def flow : Promise Flow := ⟨Flow.stop, fun flow s => flow.Fits d.value s⟩

abbrev Flows (x : Run Flow) : Prop := d.Obeys d.flow x

variable {d} {p : α → Prop} {q : Promise α} {q' : Promise β}

theorem Verdict.after {m n : Machine} {r : Outcome α × Machine} (h : d.run m none n)
    (hr : d.Verdict q n r) : d.Verdict q m r := by
  rcases r with ⟨a | f | _, p⟩
  · exact ⟨hr.1, d.trans h hr.2.1, hr.2.2⟩
  · exact ⟨hr.1, hr.2.1, d.trans h hr.2.2⟩
  · exact ⟨hr.1, d.trans h hr.2⟩

theorem obeys_that {a : α} (h : p a) : d.Obeys (.that p) (pure a) := ⟨fun hm => ⟨hm, d.refl _, h⟩⟩

theorem keeps_pure (a : α) : d.Keeps (pure a) := obeys_that trivial

theorem verdict_pure {flow : Flow} {m : Machine} (hm : d.holds m) (hs : flow.isStop = false)
    (hf : flow.Fits d.value m.context.scope) : d.Verdict d.flow m (.done flow, m) := by
  refine ⟨hm, ?_, hf⟩
  cases flow <;> first | exact d.refl m | cases hs

theorem flows_next : d.Flows (pure .next) := ⟨fun hm => verdict_pure hm rfl trivial⟩

theorem flows_leave : d.Flows (pure .leave) := ⟨fun hm => verdict_pure hm rfl trivial⟩

theorem obeys_fail {f : Failure} (h : f.cause.isLocal = true) : d.Obeys q (Run.fail f) :=
  ⟨fun hm => ⟨h, hm, d.refl _⟩⟩

theorem obeys_raise {c : Cause} (h : c.isLocal = true) : d.Obeys q (Run.raise c) := obeys_fail h

theorem obeys_exhausted : d.Obeys q Run.exhausted := ⟨fun hm => ⟨hm, d.refl _⟩⟩

theorem obeys_ofExcept {r : Except Cause α} (h : Tame r) (hp : ∀ a, r = .ok a → p a) :
    d.Obeys (.that p) (Run.ofExcept r) := by
  cases r with
  | ok a => exact obeys_that (hp a rfl)
  | error e => exact obeys_raise (h.holds e rfl)

theorem keeps_ofExcept {r : Except Cause α} (h : Tame r) : d.Keeps (Run.ofExcept r) :=
  obeys_ofExcept h fun _ _ => trivial

theorem keeps_modify {f : Machine → Machine} (h : ∀ m, Act env d.value m (f m)) :
    d.Keeps (Run.modify f) := by
  refine ⟨fun {m} hm => ?_⟩
  obtain ⟨hn, ran⟩ := d.act hm (h m)
  exact ⟨hn, ran, trivial⟩

theorem verdict_stopped {s : Stop Cause} {m n : Machine} (h : s.isLocal = true) (hn : d.holds n)
    (ran : d.run m none n) : d.Verdict q m (Run.stopped s, n) := by
  cases s with
  | cause c => exact ⟨h, hn, ran⟩
  | panic => exact ⟨hn, ran⟩

theorem obeys_reading {f : Context → Except (Stop Cause) α} (h : ∀ c, TameStop (f c))
    (hp : ∀ {m a}, d.holds m → f m.context = .ok a → p a) : d.Obeys (.that p) (Run.reading f) := by
  refine ⟨fun {m} hm => ?_⟩
  unfold Run.reading
  split
  · exact ⟨hm, d.refl m, hp hm ‹_›⟩
  · exact verdict_stopped ((h m.context).holds _ ‹_›) hm (d.refl m)

theorem keeps_updating {f : Context → Except (Stop Cause) Context} (h : ∀ c, TameStop (f c))
    (act : ∀ {m c}, f m.context = .ok c → Act env d.value m { m with context := c }) :
    d.Keeps (Run.updating f) := by
  refine ⟨fun {m} hm => ?_⟩
  unfold Run.updating
  split
  · obtain ⟨hn, ran⟩ := d.act hm (act ‹_›)
    exact ⟨hn, ran, trivial⟩
  · exact verdict_stopped ((h m.context).holds _ ‹_›) hm (d.refl m)

theorem Obeys.pinned {x : Run α} (t : Token) (h : d.Obeys q x) : d.Obeys q (Run.pinned t x) := by
  refine ⟨fun {m} hm => ?_⟩
  have hx := h.verdict hm
  unfold Run.pinned
  split
  · rename_i f n hr
    rw [hr] at hx
    obtain ⟨isLocal, kept⟩ := hx
    exact ⟨by rw [Failure.cause_pin, isLocal], kept⟩
  · exact hx

theorem Verdict.bind {x : Run α} {f : α → Run β} {m : Machine} (hx : d.Verdict (.that p) m (x m))
    (hf : ∀ a n, d.holds n → d.run m none n → p a → d.Verdict q' n (f a n)) :
    d.Verdict q' m ((x >>= f) m) := by
  show d.Verdict q' m (Run.bind x f m)
  unfold Run.bind
  split
  · rename_i a n h
    rw [h] at hx
    exact (hf a n hx.1 hx.2.1 hx.2.2).after hx.2.1
  · rename_i e n h
    rw [h] at hx
    exact hx
  · rename_i n h
    rw [h] at hx
    exact hx

theorem Obeys.bind {x : Run α} {f : α → Run β} (hx : d.Obeys (.that p) x)
    (hf : ∀ a, p a → d.Obeys q' (f a)) : d.Obeys q' (x >>= f) :=
  ⟨fun hm => (hx.verdict hm).bind fun a _ hn _ ha => (hf a ha).verdict hn⟩

theorem Obeys.next {x : Run α} {f : α → Run β} (hx : d.Keeps x) (hf : ∀ a, d.Obeys q' (f a)) :
    d.Obeys q' (x >>= f) :=
  hx.bind fun a _ => hf a

theorem obeys_require {allowed : Scope → Bool} {statement : String} {x : Run α}
    (hx : ∀ {m}, d.holds m → allowed m.context.scope = true → d.Verdict q m (x m)) :
    d.Obeys q (Run.require allowed statement >>= fun _ => x) := by
  refine ⟨fun {m} hm => ?_⟩
  show d.Verdict q m (Run.bind (Run.require allowed statement) (fun _ => x) m)
  unfold Run.bind Run.require
  by_cases h : allowed m.context.scope = true
  · simpa only [h, if_true] using hx hm h
  · simp only [h]
    exact ⟨rfl, hm, d.refl m⟩

theorem Obeys.follow {x : Run Flow} {f : Flow → Run Flow} (hx : d.Flows x)
    (hf : ∀ flow n, flow.isStop = false → flow.Fits d.value n.context.scope → d.holds n →
      d.Verdict d.flow n (f flow n))
    (hr : f .restart = pure .restart) (he : f .error = pure .error) : d.Flows (x >>= f) := by
  refine ⟨fun {m} hm => ?_⟩
  show d.Verdict d.flow m (Run.bind x f m)
  have ran := hx.verdict hm
  unfold Run.bind
  split
  · rename_i flow n h
    rw [h] at ran
    obtain ⟨hn, run, fits⟩ := ran
    cases flow with
    | restart => rw [hr]; exact ⟨hn, run, fits⟩
    | error => rw [he]; exact ⟨hn, run, fits⟩
    | _ => exact Verdict.after run (hf _ n rfl fits hn)
  · rename_i e n h
    rw [h] at ran
    exact ran
  · rename_i n h
    rw [h] at ran
    exact ran

theorem obeys_inFrame {x : Run Flow} (name : String) (k : Kind) (hx : d.Flows x) :
    d.Obeys (.that fun flow => ∃ s, flow.Fits d.value s) (Run.inFrame ⟨name, some k⟩ x) := by
  refine ⟨fun {m} hm => ?_⟩
  have ran := hx.verdict (d.push ⟨name, some k⟩ hm)
  unfold Run.inFrame
  generalize x (m.push ⟨name, some k⟩) = r at ran
  rcases r with ⟨flow | f | _, n⟩
  · exact ⟨d.pop hm ran.1, d.framed _ ran.2.1, _, ran.2.2⟩
  · exact ⟨ran.1, d.pop hm ran.2.1, d.framed _ ran.2.2⟩
  · exact ⟨d.pop hm ran.1, d.framed _ ran.2⟩

theorem Verdict.popped {m : Machine} {name : String} {r : Outcome Flow × Machine}
    {locals : Register Value} (hp : ∀ {n}, d.holds n → d.holds (n.pop locals))
    (h : d.Verdict d.flow (m.push ⟨name, none⟩) r) :
    d.Verdict d.flow m (r.1, r.2.pop locals) := by
  rcases r with ⟨flow | f | _, n⟩
  · obtain ⟨hn, run, fits⟩ := h
    refine ⟨hp hn, ?_, fits⟩
    have framed := d.framed locals run
    cases flow <;> exact framed
  · exact ⟨h.1, hp h.2.1, d.framed locals h.2.2⟩
  · exact ⟨hp h.1, d.framed locals h.2⟩

theorem flows_inFrame {x : Run Flow} (name : String) (hx : d.Flows x) :
    d.Flows (Run.inFrame ⟨name, none⟩ x) :=
  ⟨fun hm => (hx.verdict (d.push ⟨name, none⟩ hm)).popped (d.pop hm)⟩

section Expressions

variable {value : Run.Evaluator} {body : Run.Runner}

theorem gives_named (name : String) : d.Gives (Run.named env name) := by
  unfold Run.named
  dsimp only
  split
  · rename_i b _ hb
    exact obeys_that (d.made (Value.made_backend (List.mem_of_find?_eq_some hb)))
  · exact obeys_that (d.made (Value.made_acl _ _))
  · split
    · exact obeys_that (d.made (Value.made_table _ _))
    split
    · exact obeys_that (d.made (Value.made_ident _ _))
    · exact obeys_reading (fun c => c.getVariable_tame env name) d.read

theorem keeps_operand (op : InfixOp) (v : Value) : d.Keeps (Run.operand op v) :=
  keeps_ofExcept (v.truth_tame _)

theorem seek_holds {m : Machine} (op : InfixOp) (l : Value) {r : Value} (hm : d.holds m)
    (hr : d.value r) :
    d.holds (m.seek (Run.soughtBy op l r)) ∧ d.run m none (m.seek (Run.soughtBy op l r)) := by
  cases h : Run.soughtBy op l r with
  | none => exact ⟨hm, d.refl m⟩
  | some p =>
    refine d.act hm (.search m hr (l := l) ?_)
    unfold Run.soughtBy at h
    split at h
    · exact h
    · exact h
    · cases h

theorem gives_operate (op : InfixOp) {l r : Value} (hr : d.value r) :
    d.Gives (Run.operate op l r) := by
  refine ⟨fun {m} hm => ?_⟩
  obtain ⟨hn, sought⟩ := seek_holds op l hm hr
  unfold Run.operate
  dsimp only
  split
  · obtain ⟨hp, ran⟩ := d.act hn (.captures _ _)
    exact ⟨hp, d.trans sought ran, d.made (Value.operate_made ‹_›)⟩
  · exact ⟨rfl, hn, sought⟩

theorem verdict_callBuiltin {m : Machine} {name : String} {b : Builtin} {args : List Value}
    (hm : d.holds m) (hb : Builtin.resolve env m.context name = .ok b)
    (ha : ∀ v ∈ args, d.value v) :
    d.Verdict (.that d.value) m (Run.callBuiltin env b args m) := by
  have inLibrary := (Builtin.of_resolve hb).1
  have given {v : Value} (h : given? (b.run env args m.context) = some v) : d.value v :=
    (Builtin.run_gives inLibrary h).elim d.made (ha v)
  unfold Run.callBuiltin
  split
  · obtain ⟨hn, ran⟩ := d.act hm (.builtin hb (Builtin.call_eq_ok.mpr ‹_›))
    exact ⟨hn, ran, given (by simp only [*]; rfl)⟩
  · obtain rfl := Builtin.run_atomic inLibrary env args _ _ _ ‹_›
    exact ⟨hm, d.refl m, given (by simp only [*]; rfl)⟩
  · rename_i s _ _ _
    obtain rfl := Builtin.run_atomic inLibrary env args _ _ _ ‹_›
    exact verdict_stopped (by cases s <;> rfl) hm (d.refl m)

theorem gives_resultOf (name : String) (returns : Kind) {flow : Flow} {s : Scope}
    (hf : flow.Fits d.value s) : d.Gives (Run.resultOf name returns flow) := by
  unfold Run.resultOf
  split
  · split
    · exact obeys_raise rfl
    · exact obeys_that hf
  · exact obeys_raise rfl
  · exact obeys_that (d.made (Value.made_unset _ _))

theorem gives_literal {r : Except ValueError Value}
    (hr : ∀ v, r = .ok v → v.Made env.declarations) :
    d.Gives (Run.literal r) :=
  obeys_ofExcept (.value r) fun v hv => d.made (hr v (mapError_eq_ok hv))

variable (hv : ∀ e, e.Within d.text → d.Gives (value e))
  (hb : ∀ b, Statement.AllWithin d.text b → d.Flows (body b))

include hv in
theorem keeps_condition {e : Expression} (he : e.Within d.text) : d.Keeps (Run.condition value e) :=
  (hv e he).bind fun v _ => (keeps_ofExcept (v.truth_tame _)).pinned e.token

include hv in
theorem gives_shortCircuit (op : InfixOp) (decisive : Bool) {left right : Expression}
    (hl : left.Within d.text) (hr : right.Within d.text) :
    d.Gives (Run.shortCircuit value op decisive left right) := by
  have truth (b : Bool) : d.Gives (pure (Value.ofBool b)) :=
    obeys_that (d.made (Value.made_ofBool _ b))
  refine (hv left hl).bind fun l _ => (keeps_operand op l).next fun a => ?_
  split
  · exact truth _
  · exact (hv right hr).bind fun r _ => (keeps_operand op r).next fun b => truth _

include hv in
theorem gives_binary (op : InfixOp) {left right : Expression} (hl : left.Within d.text)
    (hr : right.Within d.text) : d.Gives (Run.binary value op left right) := by
  unfold Run.binary
  split
  · exact gives_shortCircuit hv _ _ hl hr
  · exact gives_shortCircuit hv _ _ hl hr
  · exact (hv left hl).bind fun l _ => (hv right hr).bind fun r hr => gives_operate op hr

include hv in
theorem obeys_arguments (b : Builtin) (i : Nat) {es : List Expression}
    (hes : ∀ e ∈ es, e.Within d.text) :
    d.Obeys (.that fun vs => ∀ v ∈ vs, d.value v) (Run.arguments value b i es) := by
  induction es generalizing i with
  | nil => exact obeys_that fun _ h => nomatch h
  | cons e es ih =>
    have tail := ih (i + 1) fun e he => hes e (List.mem_cons_of_mem _ he)
    have rest (v : Value) (hv : d.value v) : d.Obeys (.that fun vs => ∀ v ∈ vs, d.value v) (do
        let vs ← Run.arguments value b (i + 1) es
        return v :: vs) :=
      tail.bind fun vs hvs => obeys_that (List.forall_mem_cons.mpr ⟨hv, hvs⟩)
    have head : d.Gives (value e) := hv e (hes e (List.mem_cons_self ..))
    unfold Run.arguments
    dsimp only
    split
    · split
      · exact (obeys_that (d.made (Value.made_ident _ _))).bind rest
      · exact head.bind rest
    · exact head.bind rest

include hb in
theorem gives_callFunctional {s : SubroutineDeclaration} (hs : env.declarations.Subroutine s)
    (arguments : Nat) : d.Gives (Run.callFunctional body s arguments) := by
  unfold Run.callFunctional
  split
  · exact obeys_raise rfl
  · refine (keeps_modify fun m => .enter m s.name).next fun _ => ?_
    refine (obeys_inFrame s.name _ (hb s.body (d.declared hs))).bind fun flow hf => ?_
    obtain ⟨scope, hf⟩ := hf
    exact gives_resultOf s.name _ hf

theorem obeys_resolve {name : String} {f : Builtin → Run β}
    (hf : ∀ b {m}, d.holds m → Builtin.resolve env m.context name = .ok b →
      d.Verdict q' m (f b m)) :
    d.Obeys q' (Run.asking (fun c => Builtin.resolve env c name) >>= f) := by
  refine ⟨fun {m} hm => ?_⟩
  show d.Verdict q' m (Run.bind (Run.asking fun c => Builtin.resolve env c name) f m)
  cases h : Builtin.resolve env m.context name with
  | ok b =>
    simp only [Run.bind, Run.asking, h]
    exact hf b hm h
  | error e =>
    simp only [Run.bind, Run.asking, h]
    exact ⟨(m.context.resolve_tame env name).holds e h, hm, d.refl m⟩

include hv in
theorem verdict_applied {m : Machine} {name : String} {b : Builtin} {f : List Value → Run β}
    {es : List Expression} (hes : ∀ e ∈ es, e.Within d.text) (hm : d.holds m)
    (hb : Builtin.resolve env m.context name = .ok b)
    (hf : ∀ args {n}, d.holds n → (∀ v ∈ args, d.value v) →
      Builtin.resolve env n.context name = .ok b → d.Verdict q' n (f args n)) :
    d.Verdict q' m ((Run.arguments value b 0 es >>= f) m) := by
  refine ((obeys_arguments hv b 0 hes).verdict hm).bind fun args n hn ran ha => hf args hn ha ?_
  rw [Builtin.resolve_congr (d.scope ran)]
  exact hb

include hv hb in
theorem gives_call (name : String) {es : List Expression} (hes : ∀ e ∈ es, e.Within d.text) :
    d.Gives (Run.call env value body name es) := by
  unfold Run.call
  split
  · rename_i s found
    exact gives_callFunctional hb (.inr (List.mem_of_find?_eq_some found)) _
  · refine obeys_resolve fun b m hm resolved => verdict_applied hv hes hm resolved ?_
    exact fun args n hn ha resolved => verdict_callBuiltin hn resolved ha

include hv hb in
theorem gives_evaluateWith {e : Expression} (he : e.Within d.text) :
    d.Gives (Run.evaluateWith env value body e) := by
  have scalar {v : Value} (h : v.Made env.declarations) (hs : v.kind ≠ .string) :
      d.Gives (pure v.asLiteral) := obeys_that (d.made (Value.made_asLiteral _ h hs))
  refine Obeys.pinned e.token ?_
  cases e with
  | ident _ n => exact gives_named n
  | ip _ s => exact gives_literal fun _ => Run.ipLiteral_made
  | string t s => exact obeys_that (d.literal (he s (.here t)))
  | integer _ n => exact scalar (Value.made_ofInteger _ n) nofun
  | float _ x => exact scalar (Value.made_ofFloat _ x) nofun
  | boolean _ b => exact scalar (Value.made_ofBool _ b) nofun
  | rtime _ s => exact gives_literal fun _ => Run.rtimeLiteral_made
  | «prefixed» _ op r =>
    refine (hv r fun t h => he t (.operand h)).bind fun v _ => ?_
    exact obeys_ofExcept (.value _) fun w hw => d.made (Value.applyPrefix_made (mapError_eq_ok hw))
  | group _ e => exact hv e fun t h => he t (.inner h)
  | binary _ l op r =>
    exact gives_binary hv op (fun t h => he t (.left h)) fun t h => he t (.right h)
  | conditional _ c a b =>
    refine (keeps_condition hv fun t h => he t (.condition h)).next fun yes => ?_
    split
    · exact hv a fun t h => he t (.consequence h)
    · exact hv b fun t h => he t (.alternative h)
  | call _ f es => exact gives_call hv hb f fun e hes t h => he t (.argument hes h)

end Expressions

section Statements

variable {value : Run.Evaluator} {body : Run.Runner}

theorem keeps_takes (subject : String) (c : Case) : d.Keeps (Run.takes subject c) := by
  refine ⟨fun {m} hm => ?_⟩
  unfold Run.takes
  split
  · exact ⟨hm, d.refl m, trivial⟩
  · exact ⟨hm, d.refl m, trivial⟩
  · split
    · obtain ⟨hn, ran⟩ := d.act hm (.captures m _)
      exact ⟨hn, ran, trivial⟩
    · exact ⟨rfl, hm, d.refl m⟩

theorem obeys_casesFrom (subject : String) (cases : List Case) :
    d.Obeys (.that fun taken => ∀ cs, taken = some cs → cs ⊆ cases)
      (Run.casesFrom subject cases) := by
  induction cases with
  | nil => exact obeys_that fun _ h => nomatch h
  | cons c cs ih =>
    unfold Run.casesFrom
    refine (keeps_takes subject c).next fun hit => ?_
    split
    · exact obeys_that fun _ h => by cases h; exact fun _ h => h
    · refine ⟨fun hm => ?_⟩
      have ran := ih.verdict hm
      generalize Run.casesFrom subject cs _ = r at ran
      rcases r with ⟨taken | f | _, n⟩
      · exact ⟨ran.1, ran.2.1, fun ds hd => List.subset_cons_of_subset c (ran.2.2 ds hd)⟩
      · exact ran
      · exact ran

theorem flows_stateOf (e : Expression) : d.Flows (Run.stateOf e) := by
  refine ⟨fun {m} hm => ?_⟩
  unfold Run.stateOf
  dsimp only
  split
  · split
    · rename_i state found
      have legal := (Option.filter_eq_some_iff.mp found).2
      exact verdict_pure hm rfl (List.contains_iff_mem.mp legal)
    · exact ⟨rfl, hm, d.refl m⟩
  · exact ⟨rfl, hm, d.refl m⟩

theorem flows_jump (label : String) : d.Flows (Run.jump env label) := by
  refine ⟨fun {m} hm => ?_⟩
  unfold Run.jump
  split
  · split
    · exact verdict_pure hm rfl trivial
    · exact ⟨rfl, hm, d.refl m⟩
  · exact ⟨rfl, hm, d.refl m⟩

variable (hv : ∀ e, e.Within d.text → d.Gives (value e))
  (hb : ∀ b, Statement.AllWithin d.text b → d.Flows (body b))

include hb in
theorem flows_callSubroutine (name : String) : d.Flows (Run.callSubroutine env body name) := by
  unfold Run.callSubroutine
  split
  · exact obeys_raise rfl
  · rename_i s found
    have within := d.declared (.inl (List.mem_of_find?_eq_some found))
    refine (keeps_modify fun m => .enter m name).next fun _ => ?_
    refine (flows_inFrame s.name (hb s.body within)).follow (fun flow n hs hf hn => ?_) rfl rfl
    split
    · exact flows_next.verdict hn
    · exact flows_next.verdict hn
    · exact flows_next.verdict hn
    · exact flows_next.verdict hn
    · exact (obeys_raise rfl).verdict hn
    · exact verdict_pure hn hs hf

include hv hb in
theorem flows_firstOf {otherwise : Run Flow} (ho : d.Flows otherwise) {others : List ElseIf}
    (hc : ∀ c b, .mk c b ∈ others → c.Within d.text ∧ Statement.AllWithin d.text b) :
    d.Flows (Run.firstOf value body otherwise others) := by
  induction others with
  | nil => exact ho
  | cons o rest ih =>
    obtain ⟨c, b⟩ := o
    obtain ⟨hcond, hbody⟩ := hc c b (List.mem_cons_self ..)
    unfold Run.firstOf
    refine (keeps_condition hv hcond).next fun yes => ?_
    split
    · exact hb b hbody
    · exact ih fun c b h => hc c b (List.mem_cons_of_mem _ h)

include hv hb in
theorem flows_branch {t : Token} {c : Expression} {a : List Statement} {others : List ElseIf}
    {last : Option (List Statement)} (hs : (Statement.branch t c a others last).Within d.text) :
    d.Flows (Run.branch value body c a others last) := by
  refine flows_firstOf hv hb ?_ fun o b ho => ?_
  · cases last with
    | none => exact flows_next
    | some b => exact hb b fun s h text hm => hs text (.alternative h hm)
  · rcases List.mem_cons.mp ho with first | other
    · cases first
      exact ⟨fun text h => hs text (.condition h), fun s h text hm => hs text (.consequence h hm)⟩
    · exact ⟨fun text h => hs text (.otherCondition other h),
        fun s h text hm => hs text (.otherConsequence other h hm)⟩

include hb in
theorem flows_runCases {cases : List Case} (hc : ∀ k ∈ cases, Statement.AllWithin d.text k.body) :
    d.Flows (Run.runCases body cases) := by
  induction cases with
  | nil => exact flows_next
  | cons c cs ih =>
    have rest := ih fun k hk => hc k (List.mem_cons_of_mem _ hk)
    unfold Run.runCases
    refine (hb c.body (hc c (List.mem_cons_self ..))).follow (fun flow n hs hf hn => ?_) rfl rfl
    split
    · exact flows_next.verdict hn
    · split
      · exact rest.verdict hn
      · exact flows_next.verdict hn
    · exact verdict_pure hn hs hf

include hv hb in
theorem flows_switch {t : Token} {control : Expression} {cases : List Case} {default : Option Nat}
    (hs : (Statement.switch t control cases default).Within d.text) :
    d.Flows (Run.switch value body control cases default) := by
  have within {cs : List Case} (h : cs ⊆ cases) : ∀ k ∈ cs, Statement.AllWithin d.text k.body :=
    fun k hk s h' text hm => hs text (.case (h hk) h' hm)
  refine (hv control fun text h => hs text (.control h)).bind fun subject _ => ?_
  refine (obeys_casesFrom _ _).bind fun taken htaken => ?_
  split
  · rename_i cs
    exact flows_runCases hb (within (htaken cs rfl))
  · split
    · exact flows_runCases hb (within (List.drop_subset ..))
    · exact flows_next

include hv in
theorem flows_giveBack {t : Token} {e : Option Expression}
    (hs : (Statement.ret t e).Within d.text) :
    d.Flows (Run.giveBack value e) := by
  refine ⟨fun {m} hm => ?_⟩
  unfold Run.giveBack
  split
  · exact verdict_pure hm rfl (d.made (Value.made_unset _ _))
  · rename_i e _
    have given : d.Flows (do
        let v ← value e
        return .value v) :=
      (hv e fun text h => hs text (.returned h)).bind fun v hv => ⟨fun hn => verdict_pure hn rfl hv⟩
    exact given.verdict hm
  · exact verdict_pure hm rfl trivial
  · exact (flows_stateOf _).verdict hm

include hv in
theorem keeps_integer (context : String) {e : Expression} (he : e.Within d.text) :
    d.Keeps (Run.integer value context e) := by
  refine (hv e he).bind fun v _ => ?_
  split
  · exact keeps_pure _
  · exact obeys_fail rfl

include hv in
theorem flows_applyBuiltin (name : String) {es : List Expression}
    (hes : ∀ e ∈ es, e.Within d.text) :
    d.Flows (Run.applyBuiltin env value name es) := by
  refine obeys_resolve fun b m hm resolved => ?_
  split
  · exact (obeys_raise rfl).verdict hm
  · refine verdict_applied hv hes hm resolved fun args n hn ha resolved => ?_
    have called : d.Verdict (.that fun _ => True) n (discard (Run.callBuiltin env b args) n) :=
      (verdict_callBuiltin hn resolved ha).bind fun _ p hp _ _ => (keeps_pure ()).verdict hp
    exact called.bind fun _ p hp _ _ => flows_next.verdict hp

include hv in
theorem flows_synthesize {e : Expression} (he : e.Within d.text) (base64 : Bool) :
    d.Flows (Run.synthesize value e base64) := by
  refine obeys_require fun {m} hm inScope => ?_
  refine ((hv e he).verdict hm).bind fun v n hn ran _ => ?_
  have tame := Run.synthesized_tame base64 v.text
  refine ((keeps_ofExcept tame).verdict hn).bind fun text p hp ran' _ => ?_
  have inError : p.context.scope = .error := by
    rw [d.scope ran', d.scope ran]
    exact beq_iff_eq.mp inScope
  obtain ⟨hq, wrote⟩ := d.act hp (.synthesize p text inError)
  exact (flows_next.verdict hq).after wrote

include hv in
theorem keeps_errorStatus {code : Option Expression} (hc : ∀ e, code = some e → e.Within d.text) :
    d.Keeps (Run.errorStatus value code) := by
  cases code with
  | some e => exact keeps_integer hv _ (hc e rfl)
  | none => exact keeps_pure _

include hv in
theorem keeps_errorText (status : Int64) {response : Option Expression}
    (hr : ∀ e, response = some e → e.Within d.text) :
    d.Keeps (Run.errorText value status response) := by
  cases response with
  | some e => exact (hv e (hr e rfl)).bind fun v _ => keeps_pure _
  | none => exact keeps_pure _

include hv in
theorem flows_raiseError {t : Token} {code response : Option Expression}
    (hs : (Statement.error t code response).Within d.text) :
    d.Flows (Run.raiseError value code response) := by
  have hcode (e : Expression) (h : code = some e) : e.Within d.text := by
    subst h
    exact fun text h => hs text (.status h)
  have hresponse (e : Expression) (h : response = some e) : e.Within d.text := by
    subst h
    exact fun text h => hs text (.response h)
  refine obeys_require fun {m} hm allowed => ?_
  refine ((keeps_errorStatus hv hcode).verdict hm).bind fun status n hn ran _ => ?_
  refine ((keeps_errorText hv status hresponse).verdict hn).bind fun text p hp ran' _ => ?_
  rw [← d.scope ran, ← d.scope ran'] at allowed
  obtain ⟨hq, raised⟩ := d.error status text hp allowed
  have stops : Flow.stop .error (p.raise status text).context = some (.error status text) := rfl
  rw [← stops] at raised
  exact ⟨hq, raised, allowed⟩

include hv hb in
theorem flows_executeWith {s : Statement} (hs : s.Within d.text) :
    d.Flows (Run.executeWith env value body s) := by
  have next (_ : Unit) : d.Flows (pure .next) := flows_next
  refine Obeys.pinned s.token ?_
  cases s with
  | block _ b => exact hb b fun s h text hm => hs text (.inner h hm)
  | «declare» _ n k => exact (keeps_modify fun m => .declare m n k).next next
  | «set» _ n op e =>
    refine (hv e fun text h => hs text (.assigned h)).bind fun v right => Obeys.next ?_ next
    rw [Run.editing_assign]
    exact keeps_updating (fun c => c.setVariable_tame env n op v) (.assign right)
  | «unset» _ n =>
    have removed : d.Keeps (Run.editing (Context.removeVariable env n)) := by
      rw [Run.editing_remove]
      exact keeps_updating (fun c => c.unsetVariable_tame env n) .remove
    exact removed.next next
  | add _ n e =>
    refine (hv e fun text h => hs text (.added h)).bind fun v _ => Obeys.next ?_ next
    rw [Run.editing_append]
    exact keeps_updating (fun c => c.addVariable_tame env n v) .append
  | call _ n => exact flows_callSubroutine hb n
  | branch _ c a others last => exact flows_branch hv hb hs
  | switch _ e cases default => exact flows_switch hv hb hs
  | restart _ =>
    refine obeys_require fun {m} hm allowed => ?_
    obtain ⟨hn, restarted⟩ := d.restart hm allowed
    exact ⟨hn, restarted, allowed⟩
  | esi _ => exact (keeps_modify fun m => .esi m).next next
  | log _ e =>
    refine (hv e fun text h => hs text (.logged h)).bind fun v _ => ?_
    exact (keeps_modify fun m => .log m v.text).next next
  | synthetic _ e base64 => exact flows_synthesize hv (fun text h => hs text (.synthetic h)) base64
  | ret _ e => exact flows_giveBack hv hs
  | error _ code response => exact flows_raiseError hv hs
  | goto _ l => exact flows_jump l
  | label _ _ => exact flows_next
  | apply _ f es => exact flows_applyBuiltin hv f fun e he text h => hs text (.argument he h)
  | leave _ => exact flows_leave

end Statements

theorem afterLabel?_subset {label : String} {whole rest : List Statement}
    (h : Run.afterLabel? label whole = some rest) : rest ⊆ whole := by
  fun_induction Run.afterLabel? label whole with
  | case1 => cases h
  | case2 t ss =>
    cases h
    exact List.subset_cons_self ..
  | case3 t n ss hn ih => exact List.subset_cons_of_subset _ (ih h)
  | case4 s ss hs ih => exact List.subset_cons_of_subset _ (ih h)

theorem obeys_of_depth (n : Nat) : (∀ e, e.Within d.text → d.Gives (Run.evaluate env n e)) ∧
    ∀ whole rest, Statement.AllWithin d.text whole → Statement.AllWithin d.text rest →
      d.Flows (Run.runFrom env n whole rest) := by
  -- on how deep a run may go, for expressions and lists together
  induction n with
  | zero =>
    refine ⟨fun e _ => ?_, fun whole rest _ _ => ⟨fun {m} hm => ?_⟩⟩
    · unfold Run.evaluate
      exact obeys_exhausted
    · unfold Run.runFrom
      exact ⟨hm, d.refl m⟩
  | succ n ih =>
    obtain ⟨hv, hr⟩ := ih
    have hb (b : List Statement) (h : Statement.AllWithin d.text b) :
        d.Flows (Run.runFrom env n b b) :=
      hr b b h h
    refine ⟨fun e he => ?_, fun whole rest hw hrest => ⟨fun {m} hm => ?_⟩⟩
    · unfold Run.evaluate
      exact gives_evaluateWith hv hb he
    · cases rest with
      | nil =>
        unfold Run.runFrom
        exact flows_next.verdict hm
      | cons s rest =>
        -- the statement leaves its mark before it runs
        obtain ⟨hbegun, begun⟩ := d.act hm (.begin m s)
        obtain ⟨within, hrest⟩ := List.forall_mem_cons.mp hrest
        have first := ((flows_executeWith hv hb within).verdict hbegun).after begun
        unfold Run.runFrom
        split
        · rename_i p h
          rw [h] at first
          exact ((hr whole rest hw hrest).verdict first.1).after first.2.1
        · rename_i l p h
          rw [h] at first
          -- a jump goes on behind its label, or else out of this list
          split
          · rename_i rest' found
            have hrest' : Statement.AllWithin d.text rest' :=
              fun s hs => hw s (afterLabel?_subset found hs)
            exact ((hr whole rest' hw hrest').verdict first.1).after first.2.1
          · exact first
        · exact first

theorem gives_evaluate (n : Nat) {e : Expression} (he : e.Within d.text) :
    d.Gives (Run.evaluate env n e) :=
  (obeys_of_depth n).1 e he

theorem flows_runFrom (n : Nat) {whole rest : List Statement}
    (hw : Statement.AllWithin d.text whole) (hr : Statement.AllWithin d.text rest) :
    d.Flows (Run.runFrom env n whole rest) :=
  (obeys_of_depth n).2 whole rest hw hr

theorem Verdict.holds {m : Machine} {r : Outcome α × Machine} (h : d.Verdict q m r) :
    d.holds r.2 := by
  rcases r with ⟨a | f | _, n⟩
  · exact h.1
  · exact h.2.1
  · exact h.1

section Stages

variable {name : String} {m : Machine} {s : Scope}

theorem push_of_fresh (f : Frame) (hl : m.context.locals = .empty)
    (hc : m.context.captures = .none) :
    { m with frames := f :: m.frames } = m.push f := by
  unfold Machine.push
  rw [← hl, ← hc]

theorem flowOf_verdict (name : String) (hm : d.holds m) (hl : m.context.locals = .empty)
    (hc : m.context.captures = .none) : d.Verdict d.flow m (Run.flowOf env name m) := by
  unfold Run.flowOf
  cases hs : env.declarations.subroutine? name with
  | none =>
    dsimp only
    split
    · exact flows_next.verdict hm
    · exact ⟨rfl, hm, d.refl m⟩
  | some s =>
    have within := d.declared (.inl (List.mem_of_find?_eq_some hs))
    have body : d.Flows (Run.pinned s.token (Run.runBody env env.patience s.body)) :=
      (flows_runFrom env.patience within within).pinned s.token
    obtain ⟨hentered, entered⟩ := d.act hm (.enter m name)
    have ran := body.verdict (d.push ⟨name, none⟩ hentered)
    have popped := (ran.popped (d.pop ran.holds)).after entered
    -- the stage begins without locals and groups, so that its frame is like that of a call
    rw [← push_of_fresh (m := m.enter name) ⟨name, none⟩ hl hc] at popped
    exact popped

theorem stop_of_endingOf {c : Context} {flow : Flow} {e : Ending}
    (h : Run.endingOf s c flow = .ok e) :
    e.stop = flow.stop c := by
  unfold Run.endingOf at h
  split at h <;> cases h <;> rfl

theorem no_stop_of_endingOf {c : Context} {flow : Flow} {e : Cause}
    (h : Run.endingOf s c flow = .error e) : flow.stop c = none := by
  unfold Run.endingOf at h
  split at h <;> cases h
  rfl

theorem defaultState_legal (hs : s ≠ .unknown) : Run.defaultState s ∈ s.legalReturns := by
  unfold Run.defaultState
  cases h : s.defaultReturn? with
  | some r => exact Scope.defaultReturn_legal h
  | none => cases s <;> first | exact absurd rfl hs | cases h

theorem fits_of_endingOf {c : Context} {flow : Flow} {e : Ending}
    (h : Run.endingOf s c flow = .ok e) (hf : flow.Fits d.value s) : e.Fits s := by
  unfold Run.endingOf at h
  split at h <;> cases h
  · exact hf
  · exact hf
  · exact fun _ => hf
  all_goals exact defaultState_legal

def StageVerdict (d : Contract env) (s : Scope) (m : Machine) : Outcome Ending × Machine → Prop
  | (.done e, n) => ∃ p, d.holds p ∧ d.run m e.stop p ∧ e.Fits s ∧ n = p.ended e
  | (.failed f, n) => f.cause.isLocal = true ∧ d.holds n ∧ d.run m none n
  | (.halted _, n) => d.holds n ∧ d.run m none n

theorem subroutine_verdict (name : String) (s : Scope) (hm : d.holds (m.atStage s)) :
    d.StageVerdict s (m.atStage s) (Run.subroutine env name s m) := by
  have ran := flowOf_verdict (d := d) (m := m.atStage s) name hm rfl rfl
  unfold Run.subroutine
  show d.StageVerdict s (m.atStage s) (Run.bind (Run.flowOf env name) (fun flow => Run.bind
    (Run.asking fun c => Run.endingOf s c flow) fun e => Run.bind (Run.modify fun m => m.ended e)
      fun _ => Run.pure e) (m.atStage s))
  generalize hr : Run.flowOf env name (m.atStage s) = r at ran
  unfold Run.bind
  rw [hr]
  rcases r with ⟨flow | f | _, n⟩
  · obtain ⟨hn, ran, fits⟩ := ran
    dsimp only
    cases he : Run.endingOf s n.context flow with
    | ok e =>
      simp only [Run.asking, he]
      have inStage : n.context.scope = s := d.scope ran
      refine ⟨n, hn, ?_, fits_of_endingOf he (inStage ▸ fits), rfl⟩
      rw [stop_of_endingOf he]
      exact ran
    | error c =>
      -- only a jump without its label fails here, and that ends no stage
      simp only [Run.asking, he]
      refine ⟨(Run.endingOf_tame s n.context flow).holds c he, hn, ?_⟩
      rw [← no_stop_of_endingOf he]
      exact ran
  · exact ran
  · exact ran

end Stages

end Contract

end EdgeCache
