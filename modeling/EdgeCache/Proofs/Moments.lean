import EdgeCache.Proofs.Enters
import EdgeCache.Proofs.Literals
import EdgeCache.Proofs.Locals
import EdgeCache.Proofs.Matches

/-! Runs told moment by moment: which searches, marks and entries of subroutines they are made up
of, in order, and the machine after each of them. -/

namespace EdgeCache

open Machine (captures)

/-- What happens in a run: a subroutine is entered, an operator or the test of a case searches a
text for a pattern, a mark is left, or nothing that is told of. -/
inductive Happening where
  | entry
  | search (pattern subject : String)
  | test (pattern subject : String)
  | mark (k : Mark)
  | other

namespace Happening

def sought? : Happening → Option (String × String)
  | search pattern subject | test pattern subject => some (pattern, subject)
  | _ => none

def mark? : Happening → Option Mark
  | search pattern subject => some (.search pattern subject)
  | mark k => some k
  | _ => none

def leaves (k : Captures) : Happening → Captures
  | entry => .none
  | search pattern subject | test pattern subject => k.after pattern subject
  | mark _ | other => k

end Happening

structure Moment where
  what : Happening
  machine : Machine

def Moment.mark? (a : Moment) : Option Mark := a.what.mark?

def Machine.upon (m : Machine) (past : List Moment) : Machine :=
  (past.getLast?.map Moment.machine).getD m

theorem Machine.upon_append (m : Machine) (past later : List Moment) :
    m.upon (past ++ later) = (m.upon past).upon later := by
  unfold upon
  rw [List.getLast?_append]
  cases later.getLast? <;> rfl

def Machine.seen (m : Machine) : Captures × List Mark := (m.captures, m.trace)

open Machine (seen)

namespace Run

/-- What a run goes through from a machine on. An operator and the test of a case search, and calls
and stages enter subroutines; any other single act leaves the groups, whatever they are, with a mark
or without. What is made up of runs goes through what they go through. -/
inductive Tells : {α : Type} → Run α → Machine → List Moment → Prop
  | other {α : Type} {x : Run α} (still : x.Retains seen) (m : Machine) : Tells x m
    [⟨.other, (x m).2⟩]
  | mark {α : Type} {x : Run α} {k : Machine → Mark} (still : x.Retains captures)
      (marks : ∀ m, (x m).2.trace = k m :: m.trace)
      (m : Machine) : Tells x m [⟨.mark (k m), (x m).2⟩]
  | operator {op : InfixOp} {l r : Value} {pattern subject : String}
      (sought : soughtBy op l r = some (pattern, subject)) (m : Machine) :
      Tells (operate op l r) m [⟨.search pattern subject, (operate op l r m).2⟩]
  | test {c : Case} {pattern : String} (test : c.test = some (.regex pattern)) (subject : String)
    (m : Machine) :
      Tells (takes subject c) m [⟨.test pattern subject, (takes subject c m).2⟩]
  | stage (s : Scope) (m : Machine) :
      Tells (modifyContext fun c => { c.enter s with locals := .empty }) m [⟨.entry, m.atStage s⟩]
  | call {α : Type} {x : Run α} {m : Machine} {past : List Moment} (f : Frame)
      (body : Tells x ((m.enter f.name).push f) past) :
      Tells (Run.bind (modify fun m => m.enter f.name) fun _ => inFrame f x) m
        (⟨.entry, (m.enter f.name).push f⟩ ::
          (past ++ [⟨.other, (inFrame f x (m.enter f.name)).2⟩]))
  | unframed {α : Type} {x : Run α} {m : Machine} {past : List Moment} (inner : Tells x m past) :
      Tells (fun m => ((x m).1, { (x m).2 with frames := (x m).2.frames.tail })) m
        (past ++ [⟨.other, { (x m).2 with frames := (x m).2.frames.tail }⟩])
  | done {α β : Type} {x : Run α} {f : α → Run β} {a : α} {m n : Machine} {past later : List Moment}
      (first : Tells x m past) (ran : x m = (.done a, n)) (rest : Tells (f a) n later) :
      Tells (Run.bind x f) m (past ++ later)
  | broken {α β : Type} {x : Run α} {f : α → Run β} {m : Machine} {past : List Moment}
    (first : Tells x m past)
      (ran : ∀ a, (x m).1 ≠ .done a) : Tells (Run.bind x f) m past
  | pinned {α : Type} {x : Run α} {m : Machine} {past : List Moment} (t : Token)
    (inner : Tells x m past) :
      Tells (Run.pinned t x) m past
  | chosen {α : Type} {f : Machine → Run α} {m : Machine} {past : List Moment}
      (blind : ∀ m k, f (m.withGroups k) = f m) (inner : Tells (f m) m past) :
      Tells (fun m => f m m) m past

/-- At every moment the groups are what the moments up to then leave of the groups before. -/
def Follows (m : Machine) (past : List Moment) : Prop := ∀ before after, past = before ++ after →
  captures (m.upon before) = (before.map Moment.what).foldl Happening.leaves m.captures

section Follows

variable {m : Machine} {a : Moment} {past later : List Moment}

theorem follows_single (h : a.machine.captures = a.what.leaves m.captures) : Follows m [a] := by
  intro before after split
  cases before with
  | nil => rfl
  | cons b before =>
    obtain ⟨rfl, rest⟩ := List.cons.inj split
    obtain ⟨rfl, -⟩ := List.append_eq_nil_iff.mp rest.symm
    exact h

theorem Follows.append (first : Follows m past) (rest : Follows (m.upon past) later) :
    Follows m (past ++ later) := by
  intro before after split
  rcases List.append_eq_append_iff.mp split with ⟨more, rfl, hmore⟩ | ⟨more, hpast, -⟩
  · rw [Machine.upon_append, List.map_append,
      List.foldl_append, ← first past [] (List.append_nil past).symm]
    exact rest more after hmore
  · exact first before more hpast

end Follows

theorem bind_machine_of_broken {α β : Type} {x : Run α} {f : α → Run β} {m : Machine}
    (ran : ∀ a, (x m).1 ≠ .done a) :
    (Run.bind x f m).2 = (x m).2 := by
  unfold Run.bind
  generalize x m = r at ran
  rcases r with ⟨a | e | _, n⟩
  · exact absurd rfl (ran a)
  · rfl
  · rfl

theorem Tells.follows {α : Type} {x : Run α} {m : Machine} {past : List Moment}
    (h : Tells x m past) :
    m.upon past = (x m).2 ∧ Follows m past := by
  induction h with
  | other still m => exact ⟨rfl, follows_single (congrArg Prod.fst (still m))⟩
  | mark still _ m => exact ⟨rfl, follows_single (still m)⟩
  | @operator op l r pattern subject sought m =>
    refine ⟨rfl, follows_single ((operate_captures op l r m).trans ?_)⟩
    unfold Value.groupsAfter
    rw [sought]
    rfl
  | @test c pattern test subject m =>
    refine ⟨rfl, follows_single ((takes_captures subject c m).trans ?_)⟩
    rw [test]
    rfl
  | stage s m => exact ⟨rfl, follows_single rfl⟩
  | @call α x m past f body ih =>
    obtain ⟨reached, follows⟩ := ih
    have left : Follows ((m.enter f.name).push f)
        (past ++ [⟨.other, (inFrame f x (m.enter f.name)).2⟩]) := by
      refine follows.append (follows_single ?_)
      rw [reached]
      rfl
    have entered : Follows m [⟨.entry, (m.enter f.name).push f⟩] := follows_single rfl
    refine ⟨?_, entered.append left⟩
    rw [← List.singleton_append, Machine.upon_append, Machine.upon_append]
    rfl
  | @unframed α x m past inner ih =>
    obtain ⟨reached, follows⟩ := ih
    refine ⟨by rw [Machine.upon_append]; rfl, follows.append (follows_single ?_)⟩
    rw [reached]
    rfl
  | @done α β x f a m n past later first ran rest ihx ihf =>
    have reached : m.upon past = n := ihx.1.trans (by rw [ran])
    refine ⟨?_, ihx.2.append (reached ▸ ihf.2)⟩
    rw [Machine.upon_append, reached, ihf.1]
    exact (congrArg Prod.snd (bind_of_done ran)).symm
  | broken first ran ih => exact ⟨ih.1.trans (bind_machine_of_broken ran).symm, ih.2⟩
  | pinned t inner ih => exact ⟨ih.1.trans (pinned_machine t _ _).symm, ih.2⟩
  | chosen blind inner ih => exact ih

theorem Tells.history {α : Type} {x : Run α} {m : Machine} {past : List Moment}
    (h : Tells x m past) :
    (x m).2.history = m.history ++ past.filterMap Moment.mark? := by
  have unmarked {m n : Machine} (same : n.trace = m.trace) : n.history = m.history ++ [] := by
    rw [List.append_nil]
    exact congrArg List.reverse same
  have marked {m n : Machine} {k : Mark} (same : n.trace = k :: m.trace) :
      n.history = m.history ++ [k] :=
    (congrArg List.reverse same).trans List.reverse_cons
  have settled (past : List Moment) (n : Machine) :
      (past ++ [(⟨.other, n⟩ : Moment)]).filterMap Moment.mark? = past.filterMap Moment.mark? := by
    rw [List.filterMap_append]
    exact List.append_nil _
  induction h with
  | other still m => exact unmarked (congrArg Prod.snd (still m))
  | mark _ marks m => exact marked (marks m)
  | operator sought m => exact marked ((operate_trace _ _ _ m).trans (by rw [sought]; rfl))
  | test _ subject m => exact unmarked (takes_trace subject _ m)
  | stage s m => exact unmarked rfl
  | @call α x m past f body ih =>
    show _ = m.history ++ (past ++ [(⟨.other, _⟩ : Moment)]).filterMap Moment.mark?
    rw [settled]
    exact ih
  | unframed inner ih =>
    rw [settled]
    exact ih
  | @done α β x f a m n past later first ran rest ihx ihf =>
    rw [ran] at ihx
    rw [List.filterMap_append, ← List.append_assoc, ← ihx, ← ihf]
    exact congrArg (fun r : Outcome β × Machine => r.2.history) (bind_of_done ran)
  | broken first ran ih => rw [bind_machine_of_broken ran, ih]
  | pinned t inner ih => rw [pinned_machine, ih]
  | chosen blind inner ih => exact ih

def Told {α : Type} (x : Run α) : Prop := ∀ m, ∃ past, x.Tells m past

section Told

variable {α β : Type} {x : Run α} {f : α → Run β}

theorem told_of_retains (still : x.Retains seen) : x.Told := fun m => ⟨_, .other still m⟩

theorem told_of_mark (k : Machine → Mark) (still : x.Retains captures)
    (marks : ∀ m, (x m).2.trace = k m :: m.trace) :
    x.Told := fun m => ⟨_, .mark still marks m⟩

theorem told_pure (a : α) : (pure a : Run α).Told := told_of_retains (retains_pure a)

theorem told_raise (c : Cause) : (raise c : Run α).Told := told_of_retains (retains_fail _)

theorem told_ofExcept (r : Except Cause α) : (ofExcept r).Told :=
  told_of_retains (retains_ofExcept r)

theorem told_bind_at {m : Machine} (hx : x.Told) (hf : ∀ a n, x m = (.done a, n) → (f a).Told) :
    ∃ past, (Run.bind x f).Tells m past := by
  obtain ⟨past, first⟩ := hx m
  cases ran : x m with
  | mk r n =>
    cases r with
    | done a =>
      obtain ⟨later, rest⟩ := hf a n ran n
      exact ⟨_, .done first ran rest⟩
    | failed e => exact ⟨_, .broken first fun a h => by rw [ran] at h; cases h⟩
    | halted => exact ⟨_, .broken first fun a h => by rw [ran] at h; cases h⟩

theorem Told.bind (hx : x.Told) (hf : ∀ a, (f a).Told) : (Run.bind x f).Told :=
  fun _ => told_bind_at hx fun a _ _ => hf a

theorem told_bind_asking {g : Context → Except Cause α} (hf : ∀ c a, g c = .ok a → (f a).Told) :
    (Run.bind (asking g) f).Told := by
  refine fun m => told_bind_at (told_of_retains (retains_asking g)) fun a n ran => hf m.context a ?_
  unfold asking at ran
  cases answer : g m.context with
  | ok a' =>
    rw [answer] at ran
    cases ran
    rfl
  | error e =>
    rw [answer] at ran
    cases ran

theorem Told.pinned (t : Token) (hx : x.Told) : (Run.pinned t x).Told :=
  fun m => (hx m).imp fun _ => .pinned t

theorem told_frame (f : Frame) (hx : x.Told) :
    Told (Run.bind (modify fun m => m.enter f.name) fun _ => inFrame f x) :=
  fun m => (hx ((m.enter f.name).push f)).elim fun _ told => ⟨_, .call f told⟩

theorem told_chosen {f : Machine → Run α} (blind : ∀ m k, f (m.withGroups k) = f m)
    (hf : ∀ m, (f m).Told) :
    Told fun m => f m m :=
  fun m => (hf m m).imp fun _ => .chosen blind

end Told

section Expressions

variable {env : Environment} {value : Evaluator} {body : Runner}

theorem told_operate (op : InfixOp) (l r : Value) : (operate op l r).Told := by
  cases sought : soughtBy op l r with
  | some p => exact fun m => ⟨_, .operator sought m⟩
  | none =>
    refine told_of_retains fun m => Prod.ext ((operate_captures op l r m).trans ?_)
      ((operate_trace op l r m).trans ?_)
    · unfold Value.groupsAfter
      rw [sought]
      rfl
    · rw [sought]
      rfl

theorem told_takes (subject : String) (c : Case) : (takes subject c).Told := by
  by_cases searches : ∃ pattern, c.test = some (.regex pattern)
  · obtain ⟨pattern, test⟩ := searches
    exact fun m => ⟨_, .test test subject m⟩
  · refine told_of_retains fun m => Prod.ext ((takes_captures subject c m).trans ?_)
      (takes_trace subject c m)
    split
    · rename_i pattern test
      exact absurd ⟨pattern, test⟩ searches
    · rfl

theorem told_callBuiltin {b : Builtin} (hb : b ∈ Builtin.library) (args : List Value) :
    (callBuiltin env b args).Told := by
  refine told_of_retains fun m => ?_
  cases called : b.run env args m.context with
  | ok v c =>
    unfold callBuiltin
    rw [called]
    exact congrArg (·, m.trace) (Context.captures_of_call hb (Builtin.call_eq_ok.mpr called))
  | error e c => rw [callBuiltin_of_error hb called]

variable (hv : ∀ e, (value e).Told) (hb : ∀ b, (body b).Told)

include hb in
theorem told_callFunctional (s : SubroutineDeclaration) (arguments : Nat) :
    (callFunctional body s arguments).Told := by
  unfold callFunctional
  split
  · exact told_raise _
  · have ran := (told_frame ⟨s.name, some s.owes⟩ (hb s.body)).bind fun flow =>
      told_of_retains (resultOf_retains s.name s.owes flow)
    rwa [bind_assoc] at ran

section Values

include hv

theorem told_condition (e : Expression) : (condition value e).Told :=
  (hv e).bind fun _ => (told_ofExcept _).pinned e.token

theorem told_shortCircuit (op : InfixOp) (decisive : Bool) (left right : Expression) :
    (shortCircuit value op decisive left right).Told := by
  refine (hv left).bind fun l => Told.bind (told_ofExcept _) fun a => ?_
  split
  · exact told_pure _
  · exact (hv right).bind fun r => Told.bind (told_ofExcept _) fun b => told_pure _

theorem told_binary (op : InfixOp) (left right : Expression) :
    (binary value op left right).Told := by
  unfold binary
  split
  · exact told_shortCircuit hv _ _ left right
  · exact told_shortCircuit hv _ _ left right
  · exact (hv left).bind fun l => (hv right).bind fun r => told_operate op l r

theorem told_arguments (b : Builtin) (i : Nat) (es : List Expression) :
    (arguments value b i es).Told := by
  induction es generalizing i with
  | nil => exact told_pure _
  | cons e es ih =>
    rw [arguments_cons]
    have first : (argument value b i e).Told := by
      unfold argument
      split
      · split
        · exact told_pure _
        · exact hv _
      · exact hv e
    exact first.bind fun v => (ih (i + 1)).bind fun vs => told_pure _

end Values

include hv hb

theorem told_call (name : String) (es : List Expression) : (call env value body name es).Told := by
  unfold call
  split
  · exact told_callFunctional hb _ _
  · refine told_bind_asking fun c b resolved => ?_
    have known : b ∈ Builtin.library := (Builtin.of_resolve resolved).1
    exact (told_arguments hv b 0 es).bind fun args => told_callBuiltin known args

theorem told_evaluateWith (e : Expression) : (evaluateWith env value body e).Told := by
  refine Told.pinned e.token ?_
  cases e with
  | ident _ n => exact told_of_retains (named_retains n)
  | ip | rtime => exact told_ofExcept _
  | string | integer | float | boolean => exact told_pure _
  | «prefixed» _ op r => exact (hv r).bind fun v => told_ofExcept _
  | group _ e => exact hv e
  | binary _ l op r => exact told_binary hv op l r
  | conditional _ c a b =>
    refine (told_condition hv c).bind fun yes => ?_
    cases yes
    · exact hv b
    · exact hv a
  | call _ f es => exact told_call hv hb f es

end Expressions

section Statements

variable {env : Environment} {value : Evaluator} {body : Runner}

theorem told_casesFrom (subject : String) (cases : List Case) : (casesFrom subject cases).Told := by
  induction cases with
  | nil => exact told_pure _
  | cons c cs ih =>
    refine (told_takes subject c).bind fun hit => ?_
    split
    · exact told_pure _
    · exact ih

theorem told_updating {g : Context → Except (Stop Cause) Context}
    (hg : ∀ c d, g c = .ok d → d.captures = c.captures) :
    (updating g).Told := by
  refine told_of_retains fun m => ?_
  unfold updating
  cases changed : g m.context with
  | ok c => exact congrArg (·, m.trace) (hg _ _ changed)
  | error e => cases e <;> rfl

theorem told_modifyContext {g : Context → Context} (hg : ∀ c, (g c).captures = c.captures) :
    (modifyContext g).Told :=
  told_of_retains fun m => congrArg (·, m.trace) (hg m.context)

def givingBack (value : Evaluator) (e : Option Expression) (m : Machine) : Run Flow :=
  match m.frames.head?.bind Frame.returns, e with
  | some k, none => pure (.value (.unset k))
  | some _, some e => Run.bind (value e) fun v => pure (.value v)
  | none, none => pure (.returned none)
  | none, some e => stateOf e

theorem giveBack_eq (e : Option Expression) :
    giveBack value e = fun m => givingBack value e m m := by
  funext m
  unfold giveBack givingBack
  cases m.frames.head?.bind Frame.returns <;> cases e <;> rfl

section Bodies

variable (hb : ∀ b, (body b).Told)
include hb

theorem told_runCases (cs : List Case) : (runCases body cs).Told := by
  induction cs with
  | nil => exact told_pure _
  | cons c cs ih =>
    refine (hb c.body).bind fun flow => ?_
    split
    · exact told_pure _
    · split
      · exact ih
      · exact told_pure _
    · exact told_pure _

theorem told_callSubroutine (name : String) : (callSubroutine env body name).Told := by
  unfold callSubroutine
  split
  · exact told_raise _
  · rename_i s found
    obtain rfl := Declarations.name_of_subroutine? found
    show Told (Run.bind (modify fun m => m.enter s.name) fun _ =>
      Run.bind (inFrame ⟨s.name, none⟩ (body s.body)) _)
    rw [← bind_assoc]
    refine (told_frame ⟨s.name, none⟩ (hb s.body)).bind fun flow => ?_
    split
    · exact told_pure _
    · exact told_pure _
    · exact told_pure _
    · exact told_pure _
    · exact told_raise _
    · exact told_pure _

end Bodies

variable (hv : ∀ e, (value e).Told) (hb : ∀ b, (body b).Told)

section Values

include hv

theorem told_givingBack (e : Option Expression) (m : Machine) : (givingBack value e m).Told := by
  unfold givingBack
  split
  · exact told_pure _
  · exact (hv _).bind fun v => told_pure _
  · exact told_pure _
  · exact told_of_retains (stateOf_retains _)

theorem told_giveBack (e : Option Expression) : (giveBack value e).Told := by
  rw [giveBack_eq]
  exact told_chosen (fun _ _ => rfl) (told_givingBack hv e)

theorem told_integer (context : String) (e : Expression) : (integer value context e).Told := by
  refine (hv e).bind fun v => ?_
  split
  · exact told_pure _
  · exact told_of_retains (retains_fail _)

theorem told_raiseError (code response : Option Expression) :
    (raiseError value code response).Told := by
  have status : (errorStatus value code).Told := by
    cases code with
    | none => exact told_pure _
    | some e => exact told_integer hv _ e
  have text (status : Int64) : (errorText value status response).Told := by
    cases response with
    | none => exact told_pure _
    | some e => exact (hv e).bind fun v => told_pure _
  have raised (status : Int64) (text : String) : Told (modify fun m => m.raise status text) :=
    told_of_mark (fun m => .transfer (.error status text) m.frames) (fun _ => rfl) fun _ => rfl
  refine Told.bind (told_of_retains (require_retains _ _)) fun _ => status.bind fun status => ?_
  exact (text status).bind fun text => (raised status text).bind fun _ => told_pure _

theorem told_synthesize (e : Expression) (base64 : Bool) : (synthesize value e base64).Told := by
  refine Told.bind (told_of_retains (require_retains _ _)) fun _ => (hv e).bind fun v => ?_
  refine Told.bind (told_ofExcept _) fun text => Told.bind ?_ fun _ => told_pure _
  exact told_modifyContext fun _ => rfl

theorem told_applyBuiltin (name : String) (es : List Expression) :
    (applyBuiltin env value name es).Told := by
  refine told_bind_asking fun c b resolved => ?_
  have known : b ∈ Builtin.library := (Builtin.of_resolve resolved).1
  split
  · exact told_raise _
  · refine (told_arguments hv b 0 es).bind fun args => ?_
    exact ((told_callBuiltin known args).bind fun _ => told_pure _).bind fun _ => told_pure _

end Values

include hv hb

theorem told_branch (c : Expression) (a : List Statement) (others : List ElseIf)
    (last : Option (List Statement)) :
    (branch value body c a others last).Told := by
  unfold branch
  induction ElseIf.mk c a :: others with
  | nil =>
    unfold firstOf
    cases last with
    | none => exact told_pure _
    | some b => exact hb b
  | cons other rest ih =>
    obtain ⟨c, b⟩ := other
    refine (told_condition hv c).bind fun yes => ?_
    split
    · exact hb b
    · exact ih

theorem told_switch (control : Expression) (cases : List Case) (default : Option Nat) :
    (switch value body control cases default).Told := by
  refine (hv control).bind fun subject => (told_casesFrom _ cases).bind fun taken => ?_
  split
  · exact told_runCases hb _
  · split
    · exact told_runCases hb _
    · exact told_pure _

theorem told_executeWith (s : Statement) : (executeWith env value body s).Told := by
  have still {x : Run Unit} (h : x.Told) : Told (Run.bind x fun _ => pure Flow.next) :=
    h.bind fun _ => told_pure _
  refine Told.pinned s.token ?_
  cases s with
  | block _ b => exact hb b
  | «declare» _ n k => exact still (told_modifyContext fun _ => rfl)
  | «set» _ n op e =>
    refine (hv e).bind fun v => still ?_
    rw [editing_assign]
    exact told_updating fun _ _ => Context.captures_of_setVariable
  | «unset» _ n =>
    refine still ?_
    rw [editing_remove]
    exact told_updating fun _ _ => Context.captures_of_unsetVariable
  | add _ n e =>
    refine (hv e).bind fun v => still ?_
    rw [editing_append]
    exact told_updating fun _ _ => Context.captures_of_addVariable
  | call _ n => exact told_callSubroutine hb n
  | branch _ c a others last => exact told_branch hv hb c a others last
  | switch _ e cases default => exact told_switch hv hb e cases default
  | restart _ =>
    refine Told.bind (told_of_retains (require_retains _ _)) fun _ => Told.bind ?_ fun _ =>
      told_pure _
    exact told_of_mark (fun m => .transfer .restart m.frames) (fun _ => rfl) fun _ => rfl
  | esi _ => exact still (told_modifyContext fun _ => rfl)
  | log _ e => exact (hv e).bind fun v => still (told_of_retains fun _ => rfl)
  | synthetic _ e base64 => exact told_synthesize hv e base64
  | ret _ e => exact told_giveBack hv e
  | error _ code response => exact told_raiseError hv code response
  | goto _ l => exact told_of_retains (jump_retains l)
  | label => exact told_pure _
  | apply _ f es => exact told_applyBuiltin hv f es
  | leave => exact told_pure _

end Statements

variable {env : Environment}

theorem runFrom_succ (n : Nat) (whole : List Statement) (s : Statement) (rest : List Statement) :
    runFrom env (n + 1) whole (s :: rest) = Run.bind (modify fun m => m.note (.statement s))
      fun _ =>
      Run.bind (execute env n s) fun flow => match flow with
        | .next => runFrom env n whole rest
        | .goto l =>
          match afterLabel? l whole with
          | some rest => runFrom env n whole rest
          | none => pure (.goto l)
        | other => pure other := by
  funext m
  rw [runFrom_cons]
  show _ = Run.bind (execute env n s) _ (m.note (.statement s))
  unfold Run.bind
  generalize execute env n s (m.note (.statement s)) = r
  rcases r with ⟨flow | e | _, p⟩
  · cases flow with
    | goto l =>
      dsimp only
      cases afterLabel? l whole <;> rfl
    | _ => rfl
  · rfl
  · rfl

theorem told_of_depth (n : Nat) :
    (∀ e, (evaluate env n e).Told) ∧ ∀ whole rest, (runFrom env n whole rest).Told := by
  -- on how deep a run may go, for expressions and lists together
  induction n with
  | zero =>
    refine ⟨fun e => told_of_retains fun m => ?_, fun whole rest => told_of_retains fun m => ?_⟩
    · rw [evaluate]
      rfl
    · rw [runFrom]
  | succ n ih =>
    obtain ⟨hv, hr⟩ := ih
    refine ⟨fun e => ?_, fun whole rest => ?_⟩
    · rw [evaluate_succ]
      exact told_evaluateWith hv (fun b => hr b b) e
    · cases rest with
      | nil => exact told_of_retains fun m => by rw [runFrom]
      | cons s rest =>
        rw [runFrom_succ]
        have noted : Told (modify fun m => m.note (.statement s)) :=
          told_of_mark (fun _ => .statement s) (fun _ => rfl) fun _ => rfl
        refine noted.bind fun _ => Told.bind (told_executeWith hv (fun b => hr b b) s)
          fun flow => ?_
        split
        · exact hr whole rest
        · split
          · exact hr whole _
          · exact told_pure _
        · exact told_pure _

theorem told_runBody (env : Environment) (n : Nat) (b : List Statement) : (runBody env n b).Told :=
  (told_of_depth n).2 b b

theorem told_flowOf (env : Environment) (name : String) : (flowOf env name).Told := by
  unfold flowOf
  split
  · rename_i s _
    have ran := (told_runBody env env.patience s.body).pinned s.token
    refine Told.bind (told_of_retains fun _ => rfl) fun _ m => ?_
    exact (ran m).elim fun _ told => ⟨_, .unframed told⟩
  · split
    · exact told_pure _
    · exact told_raise _

theorem told_subroutine (env : Environment) (name : String) (s : Scope) :
    (Run.subroutine env name s).Told := by
  have entered : Told (modifyContext fun c => { c.enter s with locals := .empty }) :=
    fun m => ⟨_, .stage s m⟩
  unfold Run.subroutine
  refine Told.bind entered fun _ => Told.bind (told_flowOf env name) fun flow => ?_
  refine Told.bind (told_of_retains (retains_asking _)) fun e => Told.bind ?_ fun _ => told_pure _
  exact told_modifyContext fun _ => rfl

end Run

namespace Lifecycle

open Run (told_of_retains told_of_mark told_modifyContext)

variable {env : Environment} {origin : Origin}

theorem captures_of_change {f : Context → Context} (hf : Change env f) (c : Context) :
    (f c).captures = c.captures := by
  cases hf with
  | ended e => cases e <;> rfl
  | hash =>
    unfold fillHash
    split <;> rfl
  | pick =>
    obtain ⟨g, hg⟩ := pickBackend_generator env c
    show (pickBackend env c).2.captures = c.captures
    rw [hg]
  | _ => rfl

theorem ask_machine (b : Option Backend) (m : Machine) :
    (ask origin b m).2 = m.record (.fetch b m.context.backendRequest m.context.restarts) := by
  unfold ask
  dsimp only
  split <;> rfl

theorem told_ask (b : Option Backend) : (ask origin b).Told :=
  told_of_mark (fun m => .event (.fetch b m.context.backendRequest m.context.restarts))
    (fun m => by rw [ask_machine]; rfl) fun m => by rw [ask_machine]; rfl

theorem told_handedOn (env : Environment) (origin : Origin) :
    HandedOn env origin fun _ x => x.Told where
  pure := Run.told_pure
  raise := Run.told_raise
  bind := Run.Told.bind
  stage s := told_of_mark (fun m => .event (.stage s m.context.restarts)) (fun _ => rfl)
    fun _ => rfl
  subroutine s := Run.told_subroutine env _ s
  ask b := told_ask b
  again := told_of_mark (fun _ => .again) (fun _ => rfl) fun _ => rfl
  change hf := told_modifyContext (captures_of_change hf)
  pick := told_of_retains fun m => congrArg (·, m.trace) (captures_of_change .pick m.context)

theorem told_process (env : Environment) (origin : Origin) : (process env origin).Told :=
  Run.told_chosen (f := fun m => rounds env origin (env.config.maxRestarts - m.context.restarts))
    (fun _ _ => rfl)
    fun _ => (told_handedOn env origin).rounds _

end Lifecycle

end EdgeCache
