import EdgeCache.Proofs.Atomic

/-! Calls of predefined functions that depend on their arguments alone. -/

namespace EdgeCache.Builtin

/-- The function of that name gives the value for these arguments, whatever surrounds the call, and
changes nothing. -/
def Answers (name : String) (args : List Value) (v : Value) : Prop :=
  ∃ b, ofName? name = some b ∧ ∀ env c, b.run env args c = .ok v c

/-- It panics, whatever surrounds the call. -/
def Panics (name : String) (args : List Value) : Prop :=
  ∃ b, ofName? name = some b ∧ ∀ env c, b.run env args c = .error .panic c

variable {name : String} {args : List Value} {v w : Value}

theorem Panics.not_answers (h : Panics name args) : ¬ Answers name args v := by
  rintro ⟨b, known, ran⟩
  obtain ⟨b', known', ran'⟩ := h
  obtain rfl := Option.some.inj (known.symm.trans known')
  cases (ran (.of .empty .standard) .received).symm.trans (ran' _ _)

theorem Answers.unique (h : Answers name args v) (h' : Answers name args w) : v = w := by
  obtain ⟨b, known, ran⟩ := h
  obtain ⟨b', known', ran'⟩ := h'
  obtain rfl := Option.some.inj (known.symm.trans known')
  have same := (ran (.of .empty .standard) .received).symm.trans (ran' _ _)
  cases same
  rfl

theorem Answers.iff (h : Answers name args w) : Answers name args v ↔ v = w :=
  ⟨fun h' => h'.unique h, fun same => same ▸ h⟩

theorem answers_of_failing {required optional : List Parameter}
    {f : List Value → Except String Value}
    (known : ofName? name = some (failing name required optional f))
    (accepted : (failing name required optional f).check args = .ok ())
    (computed : f args = .ok v) :
    Answers name args v := by
  refine ⟨_, known, fun env c => ?_⟩
  unfold run
  rw [accepted]
  change (Stop.lift ((f args).mapError (.failed name)) : EStateM (Stop FunctionError) Context Value)
    c = _
  rw [computed]
  rfl

theorem answers_failing_iff {required optional : List Parameter}
    {f : List Value → Except String Value}
    (known : ofName? name = some (failing name required optional f))
    (accepted : (failing name required optional f).check args = .ok ()) :
    Answers name args v ↔ f args = .ok v := by
  refine ⟨fun answers => ?_, answers_of_failing known accepted⟩
  cases computed : f args with
  | ok w => rw [(answers_of_failing known accepted computed).unique answers]
  | error e =>
    obtain ⟨b, known', ran⟩ := answers
    obtain rfl := Option.some.inj (known.symm.trans known')
    have ran := ran (.of .empty .standard) .received
    unfold run at ran
    rw [accepted] at ran
    change (Stop.lift ((f args).mapError (.failed name)) : EStateM (Stop FunctionError) Context
      Value) _ = _ at ran
    rw [computed] at ran
    cases ran

end EdgeCache.Builtin
