import EdgeCache.Proofs.Layers

/-! Which flows come from which statements. Most statements only go on to the next one; a value
comes from a return, and a jump from a goto. -/

namespace EdgeCache

/-- The flows that a statement may hand on, apart from what the lists in it hand on. -/
inductive Statement.Hands : Statement → Flow → Prop
  | next (s : Statement) : Hands s .next
  | leave (t : Token) : Hands (.leave t) .leave
  | goto (t : Token) (label : String) : Hands (.goto t label) (.goto label)
  | state (t : Token) (e : Option Expression) (state : Option ReturnState) : Hands (.ret t e)
    (.returned state)
  | value (t : Token) (e : Option Expression) (v : Value) : Hands (.ret t e) (.value v)
  | restart (t : Token) : Hands (.restart t) .restart
  | error (t : Token) (code response : Option Expression) : Hands (.error t code response) .error
  | called (t : Token) (name : String) (flow : Flow) (stops : ∀ v, flow ≠ .value v)
    (stays : ∀ l, flow ≠ .goto l) :
    Hands (.call t name) flow

namespace Run

variable {env : Environment} {value : Evaluator} {body : Runner} {n : Nat} {s : Statement}
    {flow : Flow}

theorem callSubroutine_yields (t : Token) (name : String) :
    (callSubroutine env body name).Yields (Statement.call t name).Hands := by
  unfold callSubroutine
  split
  · exact yields_fail _
  · refine yields_bind fun _ => yields_bind fun flow => ?_
    split
    · exact yields_pure (.next _)
    · exact yields_pure (.next _)
    · exact yields_pure (.next _)
    · exact yields_pure (.next _)
    · exact yields_fail _
    · rename_i value goto
      exact yields_pure (.called t name flow value goto)

theorem giveBack_yields (t : Token) (e : Option Expression) :
    (giveBack value e).Yields (Statement.ret t e).Hands := by
  intro m flow m' h
  unfold giveBack at h
  split at h
  · cases h
    exact .value ..
  · rename_i e _
    have given :
        (Run.bind (value e) fun v => pure (.value v)).Yields (Statement.ret t (some e)).Hands :=
      yields_bind fun v => yields_pure (.value ..)
    exact given m flow m' h
  · cases h
    exact .state ..
  · unfold stateOf at h
    dsimp only at h
    split at h
    · split at h <;> cases h
      exact .state ..
    · cases h

theorem jump_eq (env : Environment) (label : String) (m : Machine) :
    jump env label m = (.done (.goto label), m) ∨
    jump env label m = (.failed (.of (.undefinedGoto label)), m) := by
  unfold jump
  split
  · split
    · exact .inl rfl
    · exact .inr rfl
  · exact .inr rfl

theorem jump_yields (t : Token) (label : String) :
    (jump env label).Yields (Statement.goto t label).Hands := by
  intro m flow m' h
  rcases jump_eq env label m with go | undefined
  · cases go.symm.trans h
    exact .goto t label
  · cases undefined.symm.trans h

theorem raiseError_yields (t : Token) (code response : Option Expression) :
    (raiseError value code response).Yields (Statement.error t code response).Hands :=
  yields_bind fun _ => yields_bind fun _ => yields_bind fun _ => yields_bind fun _ =>
    yields_pure (.error ..)

theorem restart_yields (t : Token) :
    (Run.bind (require Scope.allowsRestart "restart") fun _ =>
      Run.bind (modify fun m => m.transfer .restart) fun _ => pure .restart).Yields
        (Statement.restart t).Hands :=
  yields_bind fun _ => yields_bind fun _ => yields_pure (.restart t)

theorem synthesize_yields (e : Expression) (base64 : Bool) (s : Statement) :
    (synthesize value e base64).Yields s.Hands :=
  yields_bind fun _ => yields_bind fun _ => yields_bind fun _ => yields_bind fun _ =>
    yields_pure (.next s)

theorem applyBuiltin_yields (f : String) (es : List Expression) (s : Statement) :
    (applyBuiltin env value f es).Yields s.Hands := by
  refine yields_bind fun b => ?_
  split
  · exact yields_fail _
  · exact yields_bind fun _ => yields_bind fun _ => yields_pure (.next s)

theorem hands_of_deal {m m' : Machine} (h : deal env n s m = (.done (.hands flow), m')) :
    s.Hands flow := by
  have next {α : Type} {x : Run α} (t : Token) :
      (pinned t (Run.bind x fun _ => pure .next)).Yields s.Hands :=
    (yields_bind fun _ => yields_pure (.next s)).pinned t
  have simple (hs : (executeWith env (evaluate env n) (fun b => runFrom env n b b) s).Yields
      s.Hands)
      (h : Run.bind (executeWith env (evaluate env n) (fun b => runFrom env n b b) s)
        (fun flow => pure (Deal.hands flow)) m = (.done (.hands flow), m')) : s.Hands flow := by
    obtain ⟨handed, p, ran, same⟩ := bind_eq_done h
    cases same
    exact hs _ _ _ ran
  -- a statement with lists hands on a flow by itself only where it opens none of them
  cases s with
  | block t b => cases h
  | branch t c a others last =>
    obtain ⟨b, _, _, h⟩ := bind_eq_done (pinned_eq_done h)
    cases b <;> cases h
    exact .next _
  | switch t e cases default =>
    obtain ⟨cs, _, _, h⟩ := bind_eq_done (pinned_eq_done h)
    cases cs <;> cases h
    exact .next _
  | call t name => exact simple ((callSubroutine_yields t name).pinned t) h
  | ret t e => exact simple ((giveBack_yields t e).pinned t) h
  | goto t label => exact simple ((jump_yields t label).pinned t) h
  | error t code response =>
    exact simple ((raiseError_yields t code response).pinned t) h
  | restart t => exact simple ((restart_yields t).pinned t) h
  | leave t => exact simple ((yields_pure (.leave t)).pinned t) h
  | label t l => exact simple ((yields_pure (.next _)).pinned t) h
  | synthetic t e base64 => exact simple ((synthesize_yields e base64 _).pinned t) h
  | apply t f es => exact simple ((applyBuiltin_yields f es _).pinned t) h
  | «set» t | add t | log t =>
    exact simple (Yields.pinned t (yields_bind fun _ => yields_bind fun _ => yields_pure (.next _)))
      h
  | «declare» t | «unset» t | esi t => exact simple (next t) h

end Run

namespace Control

variable {layers : List Layer} {flow flow' : Flow}

theorem stopped_of_carry (h : carry flow layers = stopped flow') :
    flow' = flow ∨ flow' = .next := by
  fun_induction carry flow layers with
  | case1 =>
    cases h
    exact .inl rfl
  | case2 | case5 => cases h
  | case3 _ _ _ ih | case6 _ _ _ _ ih | case7 _ _ _ _ _ _ ih => exact ih h
  | case4 _ _ _ _ _ ih =>
    rcases ih h with rfl | rfl <;> exact .inr rfl

end Control

end EdgeCache
