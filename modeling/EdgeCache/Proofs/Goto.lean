import EdgeCache.Proofs.Flows
import EdgeCache.Proofs.Transfer

/-! Where jumps go. A jump leads to the list that holds its label, its own one or one around it, and
to no other list. -/

namespace EdgeCache

namespace Run

section Jumps

variable {env : Environment} {n : Nat} {m m' : Machine} {label : String}

theorem deal_goto_eq (t : Token) : deal env n (.goto t label) m =
    Run.bind (pinned t (jump env label)) (fun flow => pure (.hands flow)) m := rfl

theorem deal_goto {t : Token} {r : Outcome Deal} (h : deal env n (.goto t label) m = (r, m')) :
    r = .done (.hands (.goto label)) ∨
    ∃ f : Failure, r = .failed f ∧ f.cause = .undefinedGoto label := by
  rw [deal_goto_eq] at h
  rcases jump_eq env label m with hj | hj
  · simp only [Run.bind, pinned, hj] at h
    cases h
    exact .inl rfl
  · simp only [Run.bind, pinned, hj] at h
    cases h
    exact .inr ⟨_, rfl, rfl⟩

theorem deal_goto_of_label {t : Token} {name : String}
    (known : env.declarations.label? label = some ⟨label, name⟩)
    (running : m.frames.head?.map Frame.name = some name) :
    deal env n (.goto t label) m = (.done (.hands (.goto label)), m) := by
  obtain ⟨f, hf, rfl⟩ := Option.map_eq_some_iff.mp running
  have jumped : jump env label m = (.done (.goto label), m) := by
    simp only [jump, known, hf, if_true]
  simp only [deal_goto_eq, Run.bind, pinned, jumped]
  rfl

theorem eq_goto_of_deal {s : Statement} (h : deal env n s m = (.done (.hands (.goto label)), m')) :
    ∃ t, s = .goto t label := by
  cases hands_of_deal h with
  | goto t => exact ⟨t, rfl⟩
  | called _ _ _ _ stays => exact absurd rfl (stays label)

end Jumps

def KeepsFrames {α : Type} (x : Run α) : Prop := ∀ m, (x m).2.frames = m.frames

section Frames

variable {env : Environment} {α β : Type} {x : Run α}

theorem keepsFrames_of_obeys {q : Promise α} (h : (transfers env).contract.Obeys q x) :
    x.KeepsFrames := by
  intro m
  have ran := h.verdict (m := m) trivial
  generalize x m = r at ran
  rcases r with ⟨a | f | _, n⟩
  · exact ran.2.1.1
  · exact ran.2.2.1
  · exact ran.2.1

theorem KeepsFrames.bind {f : α → Run β} (hx : x.KeepsFrames) (hf : ∀ a, (f a).KeepsFrames) :
    (Run.bind x f).KeepsFrames :=
  Retains.bind (show x.Retains Machine.frames from hx) hf

theorem KeepsFrames.pinned (t : Token) (hx : x.KeepsFrames) : (Run.pinned t x).KeepsFrames :=
  Retains.pinned t (show x.Retains Machine.frames from hx)

theorem choice_keepsFrames (n : Nat) (last : Option (List Statement)) (others : List ElseIf) :
    (choice (evaluate env n) last others).KeepsFrames := by
  induction others with
  | nil => exact fun m => rfl
  | cons other rest ih =>
    obtain ⟨c, b⟩ := other
    have tested : (transfers env).contract.Keeps (condition (evaluate env n) c) :=
      Contract.keeps_condition (fun _ he => Contract.gives_evaluate n he) fun _ _ => trivial
    refine (keepsFrames_of_obeys tested).bind fun yes => ?_
    cases yes
    · exact ih
    · exact fun m => rfl

theorem chosen_keepsFrames (n : Nat) (control : Expression) (cases : List Case)
    (default : Option Nat) :
    (chosen (evaluate env n) control cases default).KeepsFrames := by
  have valued : (transfers env).contract.Gives (evaluate env n control) :=
    Contract.gives_evaluate n fun _ _ => trivial
  refine (keepsFrames_of_obeys valued).bind fun subject => ?_
  have taken := Contract.obeys_casesFrom (d := (transfers env).contract) subject.text cases
  refine (keepsFrames_of_obeys taken).bind fun cs m => ?_
  cases cs
  · cases default <;> rfl
  · rfl

theorem deal_keepsFrames (n : Nat) (s : Statement) : (deal env n s).KeepsFrames := by
  have simple : (Run.bind (executeWith env (evaluate env n) (fun b => runFrom env n b b) s)
      fun flow => pure (Deal.hands flow)).KeepsFrames := by
    have flows :
        (transfers env).contract.Flows
          (executeWith env (evaluate env n) (fun b => runFrom env n b b) s) :=
      Contract.flows_executeWith (fun _ he => Contract.gives_evaluate n he)
        (fun _ hb => Contract.flows_runFrom n hb hb) fun _ _ => trivial
    exact (keepsFrames_of_obeys flows).bind fun _ _ => rfl
  have made {α : Type} {x : Run α} (t : Token) (f : α → Deal) (hx : x.KeepsFrames) :
      (Run.pinned t (Run.bind x fun a => pure (f a))).KeepsFrames :=
    (hx.bind fun _ _ => rfl).pinned t
  cases s with
  | block t b => exact fun m => rfl
  | branch t c a others last => exact made t _ (choice_keepsFrames n last _)
  | switch t e cases default => exact made t _ (chosen_keepsFrames n e cases default)
  | _ => exact simple

end Frames

section Callers

variable {env : Environment} {body : Runner} {m n : Machine} {label name : String}
    {s : SubroutineDeclaration}

def Misses {α : Type} (label : String) (r : Outcome α × Machine) : Prop :=
  ∃ f n, r = (.failed f, n) ∧ f.cause = .undefinedGoto label

theorem callSubroutine_misses (found : env.declarations.subroutine? name = some s)
    (ran : body s.body ((m.enter name).push ⟨s.name, none⟩) = (.done (.goto label), n)) :
    Misses label (callSubroutine env body name m) := by
  have called : inFrame ⟨s.name, none⟩ (body s.body) (m.enter name) =
      (.done (.goto label), n.pop m.context.locals) := by
    simp only [inFrame, ran]
    rfl
  refine ⟨.of (.undefinedGoto label), n.pop m.context.locals, ?_, rfl⟩
  simp only [callSubroutine, found]
  show Run.bind (inFrame ⟨s.name, none⟩ (body s.body)) _ (m.enter name) = _
  simp only [Run.bind, called]
  rfl

theorem callFunctional_misses
    (ran : body s.body ((m.enter s.name).push ⟨s.name, some (s.returns.getD .string)⟩) =
      (.done (.goto label), n)) :
    Misses label (callFunctional body s 0 m) := by
  have called : inFrame ⟨s.name, some (s.returns.getD .string)⟩ (body s.body) (m.enter s.name) =
      (.done (.goto label), n.pop m.context.locals) := by
    simp only [inFrame, ran]
    rfl
  refine ⟨.of (.undefinedGoto label), n.pop m.context.locals, ?_, rfl⟩
  show Run.bind (inFrame ⟨s.name, some (s.returns.getD .string)⟩ (body s.body)) _
    (m.enter s.name) = _
  simp only [Run.bind, called]
  rfl

theorem flowOf_of_declared {r : Outcome Flow} (found : env.declarations.subroutine? name = some s)
    (ran : pinned s.token (runBody env env.patience s.body)
      { m.enter name with frames := ⟨name, none⟩ :: m.frames } = (r, n)) :
    flowOf env name m = (r, { n with frames := n.frames.tail }) := by
  simp only [flowOf, found]
  exact congrArg (fun r : Outcome Flow × Machine => (r.1, { r.2 with frames := r.2.frames.tail }))
    ran

theorem subroutine_misses {scope : Scope} (found : env.declarations.subroutine? name = some s)
    (ran : runBody env env.patience s.body { (m.atStage scope).enter name with frames :=
      ⟨name, none⟩ :: m.frames } = (.done (.goto label), n)) :
    Misses label (Run.subroutine env name scope m) := by
  have flow : flowOf env name (m.atStage scope) =
      (.done (.goto label), { n with frames := n.frames.tail }) :=
    flowOf_of_declared found (pinned_of_done s.token ran)
  refine ⟨.of (.undefinedGoto label), { n with frames := n.frames.tail }, ?_, rfl⟩
  show Run.bind (flowOf env name) _ (m.atStage scope) = _
  simp only [Run.bind, flow]
  rfl

end Callers

end Run

namespace Control

section Escaping

variable {label : String} {layers outer : List Layer} {layer : Layer} {body : List Statement}

theorem carry_goto (label : String) (layers : List Layer) :
    (∃ inner layer outer rest, layers = inner ++ layer :: outer ∧
      Run.afterLabel? label layer.whole = some rest ∧
      carry (.goto label) layers = running ({ layer with rest := rest } :: outer)) ∨
    (∀ layer ∈ layers, Run.afterLabel? label layer.whole = none) ∧
      carry (.goto label) layers = stopped (.goto label) := by
  induction layers with
  | nil => exact .inr ⟨fun _ h => (nomatch h), rfl⟩
  | cons layer outer ih =>
    cases found : Run.afterLabel? label layer.whole with
    | some rest => exact .inl ⟨[], layer, outer, rest, rfl, found, by simp only [carry, found]⟩
    | none =>
      have outside : carry (.goto label) (layer :: outer) = carry (.goto label) outer := by
        simp only [carry, found]
      rw [outside]
      rcases ih with ⟨inner, l, outer', rest, rfl, hl, there⟩ | ⟨absent, stops⟩
      · exact .inl ⟨layer :: inner, l, outer', rest, rfl, hl, there⟩
      · exact .inr ⟨List.forall_mem_cons.mpr ⟨found, absent⟩, stops⟩

theorem eq_goto_of_carry {flow : Flow} (h : carry flow layers = stopped (.goto label)) :
    flow = .goto label := by
  rcases stopped_of_carry h with same | next
  · exact same.symm
  · cases next

theorem Nested.finds (resolved : Statement.Resolved body) (h : Nested body (layer :: outer))
    {s : Statement} (hs : s ∈ layer.whole) (jump : s.Escapes label) :
    ∃ l ∈ layer :: outer, (Run.afterLabel? label l.whole).isSome = true := by
  induction outer generalizing layer s with
  | nil =>
    cases h with
    | body => exact ⟨_, List.mem_cons_self, resolved s hs label jump⟩
  | cons under outer ih =>
    cases h with
    | within list _ _ stands nested =>
      cases found : Run.afterLabel? label layer.whole with
      | some rest => exact ⟨layer, List.mem_cons_self, by rw [found]; rfl⟩
      | none =>
        have inUnder := stands.subset List.mem_cons_self
        obtain ⟨l, hl, there⟩ := ih nested inUnder (.within list hs found jump)
        exact ⟨l, List.mem_cons_of_mem _ hl, there⟩

theorem Nested.labels (h : Nested body layers) :
    ∀ layer ∈ layers, Declarations.labelsOfAll layer.whole ⊆ Declarations.labelsOfAll body := by
  induction h with
  | none => exact fun _ h => nomatch h
  | body => exact List.forall_mem_singleton.mpr (List.Subset.refl _)
  | within list _ _ stands _ ih =>
    have inUnder := Declarations.labelsOf_subset (stands.subset List.mem_cons_self)
    have inBody := ih _ List.mem_cons_self
    have inList := Declarations.labelsOfAll_subset list
    exact List.forall_mem_cons.mpr ⟨List.Subset.trans inList (List.Subset.trans inUnder inBody), ih⟩
end Escaping

variable {env : Environment} {label : String} {s : SubroutineDeclaration} {m : Machine}

/-- Where a jump may lead from the layers in which it stands: behind its label in one of them, while
the layers over that one end, or nowhere. -/
inductive Jumps (label : String) : List Layer → Control → Prop
  | lands {inner outer : List Layer} {layer : Layer} {before after : List Statement} {t : Token}
    (stands : layer.whole = before ++ .label t label :: after) :
    Jumps label (inner ++ layer :: outer) (running ({ layer with rest := after } :: outer))
  | stops {layers : List Layer} : Jumps label layers (stopped (.goto label))
  | fails {layers : List Layer} {s : Statement} {f : Failure}
    (undefined : f.cause = .undefinedGoto label) :
    Jumps label layers (failed s f)

theorem jumps_carry (label : String) (layers : List Layer) :
    Jumps label layers (carry (.goto label) layers) := by
  rcases carry_goto label layers with ⟨inner, layer, outer, rest, rfl, found, there⟩ | ⟨-, stops⟩
  · obtain ⟨before, t, stands⟩ := Run.afterLabel?_eq_some found
    rw [there]
    exact .lands stands
  · rw [stops]
    exact .stops

theorem jumps_of_step {whole rest : List Statement} {t : Token} {around : Around}
    {outer : List Layer} {m : Machine} {b : State}
    (step : Step env (running (⟨whole, .goto t label :: rest, around⟩ :: outer), m) b) :
    Jumps label (⟨whole, rest, around⟩ :: outer) b.1 := by
  cases step with
  | deal ran =>
    rcases Run.deal_goto ran with hd | ⟨_, hd, -⟩
    · cases hd
      exact jumps_carry label _
    · cases hd
  | fail ran =>
    rcases Run.deal_goto ran with hd | ⟨_, hd, undefined⟩
    · cases hd
    · cases hd
      exact .fails undefined

def start (body : List Statement) (m : Machine) : State := (running [.ofList body], m)

theorem runBody_lands (n : Nat) (body : List Statement) (m : Machine) :
    Lands env (start body m) stopped (Run.runBody env n body m) := by
  have outside : (exit .plain · []) = stopped := by
    funext flow
    cases flow <;> rfl
  rw [← outside]
  exact runFrom_lands n body body .plain [] m

theorem Step.frames {a b : State} (step : Step env a b) : b.2.frames = a.2.frames := by
  cases step with
  | close => rfl
  | @deal n _ s _ _ _ m m' _ ran =>
    have same : (Run.deal env n s (m.note (.statement s))).2.frames = m.frames :=
      Run.deal_keepsFrames n s _
    rw [ran] at same
    exact same
  | @fail n _ s _ _ _ m m' _ ran =>
    have same : (Run.deal env n s (m.note (.statement s))).2.frames = m.frames :=
      Run.deal_keepsFrames n s _
    rw [ran] at same
    exact same

theorem Path.frames {a b : State} (path : Path env a b) : b.2.frames = a.2.frames := by
  induction path with
  | refl => rfl
  | tail _ step ih => exact step.frames.trans ih

theorem Path.within {a b : State} {body : List Statement} (path : Path env a b)
    (h : a.1.Within body) :
    b.1.Within body := by
  induction path with
  | refl => exact h
  | tail _ step ih => exact step.within ih

theorem start_within (body : List Statement) (m : Machine) : (start body m).1.Within body :=
  .body (List.suffix_refl body)

inductive Missed : Control → Prop
  | stops (label : String) : Missed (stopped (.goto label))
  | fails (t : Token) (label : String) (f : Failure) : Missed (failed (.goto t label) f)

section Misses

variable {layers outer : List Layer} {flow : Flow}

theorem carry_ne_failed {t : Statement} {f : Failure} : carry flow layers ≠ failed t f := by
  intro h
  fun_induction carry flow layers with
  | case1 | case2 | case5 => cases h
  | case3 _ _ _ ih | case4 _ _ _ _ _ ih | case6 _ _ _ _ ih | case7 _ _ _ _ _ _ ih => exact ih h

theorem eq_goto_of_missed (h : (carry flow layers).Missed) :
    ∃ label, flow = .goto label ∧ carry flow layers = stopped (.goto label) := by
  generalize hc : carry flow layers = c at h
  cases h with
  | stops label => exact ⟨label, eq_goto_of_carry hc, rfl⟩
  | fails => exact absurd hc carry_ne_failed

theorem close_not_missed {around : Around} : ¬ (close outer around).Missed := by
  unfold close
  split
  · exact nofun
  · intro h
    obtain ⟨label, hf, -⟩ := eq_goto_of_missed h
    cases hf

theorem not_missed_of_step {a b : State} (known : env.declarations.Registered)
    (declared : env.declarations.Subroutine s) (resolved : Statement.Resolved s.body)
    (named : a.2.frames.head?.map Frame.name = some s.name) (h : a.1.Within s.body)
    (step : Step env a b) :
    ¬ b.1.Missed := by
  cases step with
  | close => exact close_not_missed
  | @deal n whole t rest around outer m m' d ran =>
    have h : Nested s.body (⟨whole, t :: rest, around⟩ :: outer) := h
    cases d with
    | opens | enters => exact nofun
    | hands flow =>
      intro missed
      -- a flow that gets out of all layers has found its label in none of them
      obtain ⟨label, rfl, stops⟩ := eq_goto_of_missed missed
      obtain ⟨t, rfl⟩ := Run.eq_goto_of_deal ran
      have after := h.resume ((List.suffix_cons _ rest).trans h.left)
      obtain ⟨layer, hl, there⟩ := after.finds resolved (h.left.subset List.mem_cons_self) (.goto t)
      rcases carry_goto label (⟨whole, rest, around⟩ :: outer) with ⟨_, _, _, _, _, _, on⟩
        | ⟨absent, -⟩
      · cases on.symm.trans stops
      · rw [absent layer hl] at there
        cases there
  | @fail n whole t rest around outer m m' f ran =>
    have h : Nested s.body (⟨whole, t :: rest, around⟩ :: outer) := h
    intro missed
    cases missed with
    | fails t label f =>
      -- a label in one of the layers is known as one of the running subroutine
      obtain ⟨layer, hl, there⟩ := h.finds resolved (h.left.subset List.mem_cons_self) (.goto t)
      obtain ⟨after, found⟩ := Option.isSome_iff_exists.mp there
      have inBody := h.labels layer hl (Declarations.mem_labelsOfAll found)
      have jumped := Run.deal_goto_of_label (n := n) (t := t) (known.label?_eq declared inBody)
        (m := m.note (.statement (.goto t label))) named
      cases jumped.symm.trans ran

theorem not_missed_of_path {b : State} (known : env.declarations.Registered)
    (declared : env.declarations.Subroutine s) (resolved : Statement.Resolved s.body)
    (named : m.frames.head?.map Frame.name = some s.name) (path : Path env (start s.body m) b) :
    ¬ b.1.Missed := by
  cases path with
  | refl => exact nofun
  | tail before step =>
    have frames := Path.frames before
    refine not_missed_of_step known declared resolved ?_
      (Path.within before (start_within s.body m)) step
    rw [frames]
    exact named

end Misses

/-- A jump goes on behind its label in the list in which it stands or in one around that, or else
the run fails, and it does not fail for want of a label that stands there. -/
theorem goto_scoped {p : Program} (loaded : Declarations.load p = .ok env.declarations)
    (declared : env.declarations.Subroutine s) :
    (∀ n m, Lands env (start s.body m) stopped (Run.runBody env n s.body m)) ∧
    (∀ m layers m', Path env (start s.body m) (running layers, m') → Nested s.body layers) ∧
    (∀ whole t label rest around outer m b,
      Step env (running (⟨whole, .goto t label :: rest, around⟩ :: outer), m) b →
        Jumps label (⟨whole, rest, around⟩ :: outer) b.1) ∧
    (∀ label body m n,
      (∀ name, env.declarations.subroutine? name = some s →
        body s.body ((m.enter name).push ⟨s.name, none⟩) = (.done (.goto label), n) →
          Run.Misses label (Run.callSubroutine env body name m)) ∧
      (body s.body ((m.enter s.name).push ⟨s.name, some (s.returns.getD .string)⟩) =
        (.done (.goto label), n) →
          Run.Misses label (Run.callFunctional body s 0 m)) ∧
      ∀ name scope, env.declarations.subroutine? name = some s →
        Run.runBody env env.patience s.body
            { (m.atStage scope).enter name with frames := ⟨name, none⟩ :: m.frames } =
              (.done (.goto label), n) →
          Run.Misses label (Run.subroutine env name scope m)) ∧
    (Statement.Resolved s.body → ∀ m b, m.frames.head?.map Frame.name = some s.name →
      Path env (start s.body m) b → ¬ b.1.Missed) := by
  refine ⟨fun n m => runBody_lands n s.body m, ?_, ?_, ?_, ?_⟩
  · exact fun m layers m' path => Path.within path (start_within s.body m)
  · exact fun _ _ _ _ _ _ _ _ step => jumps_of_step step
  · exact fun label body m n => ⟨fun _ found ran => Run.callSubroutine_misses found ran,
      Run.callFunctional_misses, fun _ _ found ran => Run.subroutine_misses found ran⟩
  · exact fun resolved m b named path =>
      not_missed_of_path (Declarations.registered_of_load loaded) declared resolved named path

def detourBody : SubroutineDeclaration :=
  ⟨.unknown, "vcl_recv", none, [
    .branch .unknown (.boolean .unknown true) [.block .unknown [.goto .unknown "out"]] [] none,
    .log .unknown (.string .unknown "between"),
    .label .unknown "out",
    .log .unknown (.string .unknown "after")]⟩

def strayBody : SubroutineDeclaration := ⟨.unknown, "vcl_hash", none, [.goto .unknown "out"]⟩

def inwardBody : SubroutineDeclaration :=
  ⟨.unknown, "vcl_miss", none, [.goto .unknown "in", .block .unknown [.label .unknown "in"]]⟩

def detour : Program := ⟨[.subroutine detourBody, .subroutine strayBody, .subroutine inwardBody]⟩

def detourIn : Environment :=
  .of { Declarations.empty with
    subroutines := [detourBody, strayBody, inwardBody]
    labels := [⟨"out", "vcl_recv"⟩, ⟨"in", "vcl_miss"⟩] } .standard

def detourStart (name : String) : Machine :=
  (Machine.start (.start detourIn .empty .loopback 0 (.ofSeed 0))).push ⟨name, none⟩

theorem detourBody_resolved : Statement.Resolved detourBody.body := by
  intro s hs label jump
  have out : label = "out" := by
    simp only [detourBody, List.mem_cons, List.not_mem_nil, or_false] at hs
    rcases hs with rfl | rfl | rfl | rfl
    · cases jump with
      | within list stands _ jump =>
        cases List.mem_singleton.mp list
        cases List.mem_singleton.mp stands
        cases jump with
        | within list stands _ jump =>
          cases List.mem_singleton.mp list
          cases List.mem_singleton.mp stands
          cases jump with
          | goto => rfl
          | within list => cases list
    all_goals
      cases jump with
      | within list => cases list
  subst out
  rfl

theorem goto_scoped_detour :
    Declarations.load detour = .ok detourIn.declarations ∧
    (∃ n, Path detourIn (start detourBody.body (detourStart "vcl_recv")) (stopped .next, n) ∧
      n.logs = ["after"]) ∧
    (∀ b, Path detourIn (start detourBody.body (detourStart "vcl_recv")) b → ¬ b.1.Missed) ∧
    (∃ t f n, Path detourIn (start strayBody.body (detourStart "vcl_hash")) (failed t f, n) ∧
      f.cause = .undefinedGoto "out") ∧
    Run.Misses "in" (Run.callSubroutine detourIn (Run.runBody detourIn 9) "vcl_miss"
      (detourStart "vcl_recv")) := by
  have loaded : Declarations.load detour = .ok detourIn.declarations := rfl
  obtain ⟨lands, -, -, -, hits⟩ :=
    goto_scoped loaded (s := detourBody) (.inl (by simp [detourIn, Environment.of]))
  obtain ⟨strayLands, -⟩ :=
    goto_scoped loaded (s := strayBody) (.inl (by simp [detourIn, Environment.of]))
  obtain ⟨-, -, -, misses, -⟩ :=
    goto_scoped loaded (s := inwardBody) (.inl (by simp [detourIn, Environment.of]))
  refine ⟨loaded, ?_, fun b => hits detourBody_resolved _ b rfl, ?_, ?_⟩
  · exact ⟨_, lands 9 (detourStart "vcl_recv"), rfl⟩
  · obtain ⟨-, t, path⟩ := strayLands 9 (detourStart "vcl_hash")
    exact ⟨t, _, _, path, rfl⟩
  · exact (misses "in" (Run.runBody detourIn 9) (detourStart "vcl_recv") _).1 "vcl_miss" rfl rfl

end Control

end EdgeCache
