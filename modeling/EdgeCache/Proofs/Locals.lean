import EdgeCache.Proofs.Families
import EdgeCache.Proofs.Restored

/-! What statements do to locals. Only three kinds of statements change one: its declaration, an
assignment, and what unsets it. -/

namespace EdgeCache

inductive Change where
  | declared (k : Kind)
  | assigned
  | cleared
  deriving DecidableEq

def Statement.change? (name : String) : Statement → Option Change
  | .declare _ n k => if n = name then some (.declared k) else none
  | .set _ n _ _ => if n = name ∧ Variable.isLocal name = true then some .assigned else none
  | .unset _ n => if n = name ∧ Variable.isLocal name = true then some .cleared else none
  | _ => none

inductive Change.Makes : Option Change → Option Value → Option Value → Prop
  | kept {o : Option Value} : Makes none o o
  | declared {k : Kind} {o : Option Value} : Makes (some (.declared k)) o (some (.unset k))
  | assigned {op : AssignOp} {old v w : Value} (set : Variable.assignLocal old op v = .ok w) :
    Makes (some .assigned) (some old) (some w)
  | cleared {old : Value} : Makes (some .cleared) (some old) (some (.unset old.kind))

namespace Variable

theorem write_locals {c d : Context} {x : Variable} {name : String} {op : AssignOp} {v : Value}
    (hx : ∀ n, x ≠ .local n) (h : x.write c name op v = .ok d) : d.locals = c.locals := by
  cases x with
  | slot | clientIdentity | backend =>
    obtain ⟨_, -, hd⟩ := bind_eq_ok h
    cases hd
    rfl
  | header m | method m | url m | status m =>
    obtain ⟨_, -, hd⟩ := bind_eq_ok h
    cases hd
    cases m <;> rfl
  | «local» n => exact absurd rfl (hx n)
  | group | reading => cases h

end Variable

namespace Context

open Variable (isLocal)

variable {env : Environment} {c d : Context} {n : String} {v : Value}

theorem writable?_of_isLocal (h : isLocal n = true) : c.writable? n = some (.local n) := by
  unfold writable?
  rw [Variable.ofName?_local h]
  rfl

theorem isLocal_of_writable? {x : String} (h : c.writable? n = some (.local x)) :
    isLocal n = true :=
  (Variable.isLocal_of_ofName? (Option.filter_eq_some_iff.mp h).1).1

theorem setVariable_local {op : AssignOp} (hn : isLocal n = true)
    (h : c.setVariable env n op v = .ok d) :
    ∃ old w, c.locals.get? n = some old ∧ Variable.assignLocal old op v = .ok w ∧
    d.locals = c.locals.put n w := by
  unfold setVariable at h
  rw [writable?_of_isLocal hn] at h
  simp only [Variable.write] at h
  split at h
  · cases h
  · rename_i old found
    obtain ⟨w, hw, hd⟩ := bind_eq_ok (mapError_eq_ok h)
    cases hd
    exact ⟨old, w, found, mapError_eq_ok hw, rfl⟩

theorem setVariable_locals {op : AssignOp} (hn : isLocal n ≠ true)
    (h : c.setVariable env n op v = .ok d) :
    d.locals = c.locals := by
  unfold setVariable at h
  split at h
  · cases h
  · rename_i x written
    refine Variable.write_locals (fun y hy => ?_) (mapError_eq_ok h)
    subst hy
    exact hn (isLocal_of_writable? written)

theorem unsetVariable_local (hn : isLocal n = true) (h : c.unsetVariable env n = .ok d) :
    ∃ old, c.locals.get? n = some old ∧ d.locals = c.locals.put n (.unset old.kind) := by
  unfold unsetVariable at h
  rw [writable?_of_isLocal hn] at h
  dsimp only at h
  split at h
  · cases h
    exact ⟨_, ‹_›, rfl⟩
  · cases h

theorem unsetVariable_locals (hn : isLocal n ≠ true) (h : c.unsetVariable env n = .ok d) :
    d.locals = c.locals := by
  unfold unsetVariable at h
  split at h
  · rename_i m field _
    obtain ⟨key, -, hd⟩ := bind_eq_ok (mapError_eq_ok h)
    cases hd
    cases m <;> rfl
  · exact absurd (isLocal_of_writable? ‹_›) hn
  · cases h

theorem addVariable_locals (h : c.addVariable env n v = .ok d) : d.locals = c.locals := by
  unfold addVariable at h
  split at h
  · rename_i m field _
    obtain ⟨key, -, h⟩ := bind_eq_ok (mapError_eq_ok h)
    obtain ⟨value, -, hd⟩ := bind_eq_ok h
    cases hd
    cases m <;> rfl
  · split at h <;> cases h

end Context

namespace Change.Makes

open Variable (isLocal)

variable {c d : Context} {n : String} {change : Change}

theorem put {old w : Value} (name : String) (ho : c.locals.get? n = some old)
    (hm : Makes (some change) (some old) (some w)) (hn : isLocal n = true) :
    Makes (if n = name ∧ isLocal name = true then some change else none) (c.locals.get? name)
      ((c.locals.put n w).get? name) := by
  rw [Register.get?_put]
  by_cases same : n = name
  · subst same
    rw [if_pos ⟨rfl, hn⟩, if_pos rfl, ho]
    exact hm
  · rw [if_neg fun h => same h.1, if_neg fun h => same h.symm]
    exact .kept

theorem other (name : String) (hl : d.locals = c.locals) (hn : isLocal n ≠ true) :
    Makes (if n = name ∧ isLocal name = true then some change else none) (c.locals.get? name)
      (d.locals.get? name) := by
  rw [if_neg (by rintro ⟨rfl, h⟩; exact hn h), hl]
  exact .kept

end Change.Makes

namespace Run

open Machine (locals)

section Alters

variable {α β : Type} {x : Run α} {f : α → Run β} {name : String} {change : Option Change}

def Alters (name : String) (change : Option Change) (x : Run α) : Prop := ∀ m,
  match x m with
  | (.done _, n) => Change.Makes change (m.locals.get? name) (n.locals.get? name)
  | (_, n) => n.locals = m.locals

theorem Retains.alters (h : x.Retains locals) : x.Alters name none := by
  intro m
  have same := h m
  generalize x m = r at same
  rcases r with ⟨a | f | _, n⟩
  · show Change.Makes none (m.locals.get? name) (n.locals.get? name)
    rw [same]
    exact .kept
  · exact same
  · exact same

theorem Retains.bind_alters (hx : x.Retains locals) (hf : ∀ a, (f a).Alters name change) :
    (Run.bind x f).Alters name change := by
  intro m
  have first := hx m
  unfold Run.bind
  generalize x m = r at first
  rcases r with ⟨a | e | _, p⟩
  · have rest := hf a p
    rw [show p.locals = m.locals from first] at rest
    exact rest
  · exact first
  · exact first

theorem Alters.map (hx : x.Alters name change) (g : α → β) :
    (Run.bind x fun a => pure (g a)).Alters name change := by
  intro m
  have first := hx m
  unfold Run.bind
  generalize x m = r at first
  rcases r with ⟨a | e | _, p⟩ <;> exact first

theorem Alters.pinned (t : Token) (hx : x.Alters name change) :
    (Run.pinned t x).Alters name change := by
  intro m
  have ran := hx m
  unfold Run.pinned
  generalize x m = r at ran
  rcases r with ⟨a | e | _, p⟩ <;> exact ran

theorem updating_alters {g : Context → Except (Stop Cause) Context}
    (hg : ∀ c d, g c = .ok d → Change.Makes change (c.locals.get? name) (d.locals.get? name)) :
    (updating g).Alters name change := by
  intro m
  unfold updating
  cases h : g m.context with
  | ok c => exact hg _ _ h
  | error e => cases e <;> rfl

end Alters

section Statements

variable {env : Environment} {value : Evaluator} {body : Runner}

theorem updating_retains {g : Context → Except (Stop Cause) Context}
    (hg : ∀ c d, g c = .ok d → d.locals = c.locals) : (updating g).Retains locals := by
  intro m
  unfold updating
  cases h : g m.context with
  | ok c => exact hg _ _ h
  | error e => rfl

theorem require_retains {γ : Type} {view : Machine → γ} (allowed : Scope → Bool)
    (statement : String) :
    (require allowed statement).Retains view := by
  intro m
  unfold require
  split <;> rfl

theorem takes_retains (subject : String) (c : Case) : (takes subject c).Retains locals := by
  intro m
  unfold takes
  split
  · rfl
  · rfl
  · split <;> rfl

theorem casesFrom_retains (subject : String) (cases : List Case) :
    (casesFrom subject cases).Retains locals := by
  induction cases with
  | nil => exact retains_pure _
  | cons c cs ih =>
    refine (takes_retains subject c).bind fun hit => ?_
    split
    · exact retains_pure _
    · exact ih

theorem jump_retains {γ : Type} {view : Machine → γ} (label : String) :
    (jump env label).Retains view := by
  intro m
  rcases jump_eq env label m with h | h <;> rw [h]

theorem stateOf_retains {γ : Type} {view : Machine → γ} (e : Expression) :
    (stateOf e).Retains view := by
  intro m
  unfold stateOf
  dsimp only
  split
  · split <;> rfl
  · rfl

variable (hv : ∀ e, (value e).Retains locals)
include hv

theorem choice_retains (last : Option (List Statement)) (others : List ElseIf) :
    (choice value last others).Retains locals := by
  induction others with
  | nil => exact retains_pure _
  | cons other rest ih =>
    obtain ⟨c, b⟩ := other
    refine (condition_retains hv c).bind fun yes => ?_
    split
    · exact retains_pure _
    · exact ih

theorem chosen_retains (control : Expression) (cases : List Case) (default : Option Nat) :
    (chosen value control cases default).Retains locals := by
  refine (hv control).bind fun subject => (casesFrom_retains _ cases).bind fun taken => ?_
  split <;> exact retains_pure _

theorem giveBack_retains (e : Option Expression) : (giveBack value e).Retains locals := by
  intro m
  unfold giveBack
  split
  · rfl
  · exact ((hv _).bind fun v => retains_pure _) m
  · rfl
  · exact stateOf_retains _ m

theorem integer_retains (context : String) (e : Expression) :
    (integer value context e).Retains locals := by
  refine (hv e).bind fun v => ?_
  split
  · exact retains_pure _
  · exact retains_fail _

theorem raiseError_retains (code response : Option Expression) :
    (raiseError value code response).Retains locals := by
  have status : (errorStatus value code).Retains locals := by
    cases code with
    | none => exact retains_pure _
    | some e => exact integer_retains hv _ e
  have text (status : Int64) : (errorText value status response).Retains locals := by
    cases response with
    | none => exact retains_pure _
    | some e => exact (hv e).bind fun v => retains_pure _
  refine (require_retains _ _).bind fun _ => status.bind fun status => (text status).bind
    fun text => ?_
  exact fun _ => rfl

theorem synthesize_retains (e : Expression) (base64 : Bool) :
    (synthesize value e base64).Retains locals := by
  refine (require_retains _ _).bind fun _ => (hv e).bind fun v => Retains.bind (retains_ofExcept _)
    fun text => ?_
  exact fun _ => rfl

theorem applyBuiltin_retains (name : String) (es : List Expression) :
    (applyBuiltin env value name es).Retains locals := by
  refine retains_bind_asking fun c b resolved => ?_
  have known : b ∈ Builtin.library := (Builtin.of_resolve resolved).1
  split
  · exact retains_fail _
  · refine (arguments_retains hv b 0 es).bind fun args => ?_
    exact ((callBuiltin_retains known args).bind fun _ => retains_pure _).bind fun _ =>
      retains_pure _

end Statements

variable {env : Environment}

open Variable (isLocal)

theorem declare_alters (n name : String) (k : Kind) :
    (modifyContext fun c => { c with locals := c.locals.put n (.unset k) }).Alters name
      (if n = name then some (.declared k) else none) := by
  intro m
  show Change.Makes _ (m.locals.get? name) ((m.locals.put n (.unset k)).get? name)
  rw [Register.get?_put]
  by_cases same : n = name
  · rw [if_pos same, if_pos same.symm]
    exact .declared
  · rw [if_neg same, if_neg fun h => same h.symm]
    exact .kept

theorem assign_alters (n name : String) (op : AssignOp) (v : Value) :
    (editing (Context.assignVariable env n op v)).Alters name
      (if n = name ∧ isLocal name = true then some .assigned else none) := by
  rw [editing_assign]
  refine updating_alters fun c d set => ?_
  by_cases hn : isLocal n = true
  · obtain ⟨old, w, ho, hw, hd⟩ := Context.setVariable_local hn set
    rw [hd]
    exact .put name ho (.assigned hw) hn
  · exact .other name (Context.setVariable_locals hn set) hn

theorem remove_alters (n name : String) :
    (editing (Context.removeVariable env n)).Alters name
      (if n = name ∧ isLocal name = true then some .cleared else none) := by
  rw [editing_remove]
  refine updating_alters fun c d unset => ?_
  by_cases hn : isLocal n = true
  · obtain ⟨old, ho, hd⟩ := Context.unsetVariable_local hn unset
    rw [hd]
    exact .put name ho .cleared hn
  · exact .other name (Context.unsetVariable_locals hn unset) hn

theorem append_retains (n : String) (v : Value) :
    (editing (Context.appendVariable env n v)).Retains locals := by
  rw [editing_append]
  exact updating_retains fun c d => Context.addVariable_locals

theorem deal_alters (n : Nat) (s : Statement) (name : String) :
    (deal env n s).Alters name (s.change? name) := by
  have hv (e : Expression) : (evaluate env n e).Retains locals := evaluate_retains n e
  have simple {change : Option Change} (h : (execute env n s).Alters name change) :
      (Run.bind (execute env n s) fun flow => pure (Deal.hands flow)).Alters name change :=
        h.map Deal.hands
  cases s with
  | block t b => exact (retains_pure _).alters
  | branch t c a others last =>
    exact Retains.alters (((choice_retains hv last _).bind fun b => retains_pure _).pinned t)
  | switch t e cases default =>
    exact Retains.alters
      (((chosen_retains hv e cases default).bind fun cs => retains_pure _).pinned t)
  | «declare» t n k => exact simple (((declare_alters n name k).map fun _ => Flow.next).pinned t)
  | «set» t n op e =>
    -- the right side leaves the locals, so that the old value is still there
    exact simple (((hv e).bind_alters fun v => (assign_alters n name op v).map fun _ =>
      Flow.next).pinned t)
  | «unset» t n => exact simple (((remove_alters n name).map fun _ => Flow.next).pinned t)
  | add t n e =>
    exact simple (Retains.alters
      (((hv e).bind fun v => (append_retains n v).bind fun _ => retains_pure _).pinned t))
  | call t callee => exact simple (call_retainsLocals t callee).alters
  | restart t =>
    exact simple (Retains.alters (((require_retains _ _).bind fun _ => fun _ => rfl).pinned t))
  | esi t => exact simple (Retains.alters (Retains.pinned t fun _ => rfl))
  | log t e => exact simple (Retains.alters (((hv e).bind fun v => fun _ => rfl).pinned t))
  | synthetic t e base64 =>
    exact simple (Retains.alters ((synthesize_retains hv e base64).pinned t))
  | ret t e => exact simple (Retains.alters ((giveBack_retains hv e).pinned t))
  | error t code response =>
    exact simple (Retains.alters ((raiseError_retains hv code response).pinned t))
  | goto t l => exact simple (Retains.alters ((jump_retains l).pinned t))
  | label t l => exact simple (Retains.alters (Retains.pinned t fun _ => rfl))
  | apply t f es => exact simple (Retains.alters ((applyBuiltin_retains hv f es).pinned t))
  | leave t => exact simple (Retains.alters (Retains.pinned t fun _ => rfl))

end Run

end EdgeCache
