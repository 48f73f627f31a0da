import EdgeCache.Proofs.Library

/-! Programs that work in place and fail only while nothing is changed: what they check comes first,
and what they write after that cannot fail. The calls of all predefined functions are such
programs. -/

namespace EdgeCache

section Programs

variable {σ ε α β : Type}

/-- Fails only while the state is as it was. -/
def Atomic (x : EStateM ε σ α) : Prop := ∀ s e t, x s = .error e t → t = s

def Certain (x : EStateM ε σ α) : Prop := ∀ s e t, x s ≠ .error e t

structure Looking (x : EStateM ε σ α) : Prop where
  atomic : Atomic x
  same : ∀ s a t, x s = .ok a t → t = s

variable {x : EStateM ε σ α} {f : α → EStateM ε σ β}

theorem Certain.atomic (hx : Certain x) : Atomic x := fun s e t h => absurd h (hx s e t)

theorem certain_pure (a : α) : Certain (pure a : EStateM ε σ α) := fun _ _ _ h => nomatch h

theorem certain_get : Certain (get : EStateM ε σ σ) := fun _ _ _ h => nomatch h

theorem certain_modify (g : σ → σ) : Certain (modify g : EStateM ε σ PUnit) :=
  fun _ _ _ h => nomatch h

theorem looking_get : Looking (get : EStateM ε σ σ) :=
  ⟨certain_get.atomic, fun _ _ _ h => by cases h; rfl⟩

theorem looking_ofExcept (r : Except ε α) : Looking (ofExcept r : EStateM ε σ α) := by
  refine ⟨fun s e t h => ?_, fun s a t h => (run_ofExcept_eq_ok h).2⟩
  cases r <;> cases h
  rfl

theorem looking_lift (r : Except ε α) : Looking (Stop.lift r : EStateM (Stop ε) σ α) :=
  looking_ofExcept _

theorem run_bind_eq_error {s t : σ} {e : ε} (h : (x >>= f) s = .error e t) :
    x s = .error e t ∨ ∃ a u, x s = .ok a u ∧ f a u = .error e t := by
  change EStateM.bind x f s = _ at h
  unfold EStateM.bind at h
  cases hx : x s with
  | ok a u =>
    rw [hx] at h
    exact .inr ⟨a, u, rfl, h⟩
  | error d u =>
    rw [hx] at h
    cases h
    exact .inl rfl

theorem Certain.bind (hx : Certain x) (hf : ∀ a, Certain (f a)) : Certain (x >>= f) := by
  intro s e t h
  rcases run_bind_eq_error h with failed | ⟨a, u, -, failed⟩
  · exact hx s e t failed
  · exact hf a u e t failed

theorem certain_noted (g : σ → σ) (a : α) : Certain (do modify g; return a : EStateM ε σ α) :=
  (certain_modify g).bind fun _ => certain_pure a

theorem atomic_throw_bind (e : ε) (f : α → EStateM ε σ β) :
    Atomic ((throw e : EStateM ε σ α) >>= f) :=
  fun _ _ _ h => by cases h; rfl

theorem Looking.bind (hx : Looking x) (hf : ∀ a, Atomic (f a)) : Atomic (x >>= f) := by
  intro s e t h
  rcases run_bind_eq_error h with failed | ⟨a, u, looked, failed⟩
  · exact hx.atomic s e t failed
  · rw [hf a u e t failed, hx.same s a u looked]

theorem atomic_ite {p : Prop} [Decidable p] {y : EStateM ε σ α} (hx : Atomic x) (hy : Atomic y) :
    Atomic (if p then x else y) := by
  split
  · exact hx
  · exact hy

end Programs

namespace Builtin

def IsAtomic (b : Builtin) : Prop := ∀ env args, Atomic (b.body env args)

section Makers

variable (name : String) (required optional : List Parameter)

theorem make_isAtomic {f : Body} (h : ∀ env args, Atomic (f env args)) :
    (make name required optional f).IsAtomic := h

@[simp]
theorem plain_isAtomic (f : List Value → Value) : (plain name required optional f).IsAtomic :=
  fun _ _ => (certain_pure _).atomic

theorem lift_isAtomic (f : Environment → List Value → Except FunctionError Value) :
    (make name required optional fun env args => Stop.lift (f env args)).IsAtomic :=
  fun _ _ => (looking_lift _).atomic

@[simp]
theorem failing_isAtomic (f : List Value → Except String Value) :
    (failing name required optional f).IsAtomic :=
  lift_isAtomic name required optional _

@[simp]
theorem lookingUp_isAtomic (kind : Kind) : (lookingUp name kind).IsAtomic :=
  lift_isAtomic name _ _ _

@[simp]
theorem drawing_isAtomic (draw : List Value → Generator → Value × Generator) :
    (drawing name required optional draw).IsAtomic :=
  fun _ _ => (certain_get.bind fun _ => certain_noted _ _).atomic

@[simp]
theorem noting_isAtomic (f : List Value → Context → Context) :
    (noting name required optional f).IsAtomic :=
  fun _ _ => (certain_noted _ _).atomic

@[simp]
theorem testing_isAtomic (f : Context → List Value → Except FunctionError Unit) :
    (testing name required optional f).IsAtomic :=
  fun _ _ => looking_get.bind fun _ => (looking_lift _).bind fun _ => (certain_pure _).atomic

@[simp]
theorem onFloat_isAtomic (f : Float → Marked) : (onFloat name f).IsAtomic := by
  intro env args
  unfold onFloat make
  dsimp only
  split
  · exact (certain_pure _).atomic
  · exact (certain_noted _ _).atomic

@[simp]
theorem asStatement_isAtomic {b : Builtin} (h : b.IsAtomic) : b.asStatement.IsAtomic := h

@[simp]
theorem within_isAtomic {b : Builtin} (scopes : List Scope) (h : b.IsAtomic) :
    (b.within scopes).IsAtomic := h

end Makers

section Bodies

variable (env : Environment) (args : List Value)

theorem collect_atomic : Atomic (collect env args) := by
  intro c e d h
  rw [collect_eq] at h
  split at h <;> cases h
  rfl

theorem substring_atomic : Atomic (substring env args) :=
  (looking_ofExcept _).bind fun _ => (certain_pure _).atomic

theorem readInBase_atomic : Atomic (readInBase env args) :=
  atomic_ite (certain_pure _).atomic (certain_noted _ _).atomic

theorem timeOfInteger_atomic : Atomic (timeOfInteger env args) := by
  unfold timeOfInteger
  split
  · exact (certain_pure _).atomic
  · exact (certain_noted _ _).atomic

theorem formatted_atomic : Atomic (formatted env args) := by
  unfold formatted
  split
  · exact (looking_ofExcept (.error _)).atomic
  · split
    · exact (certain_pure _).atomic
    · exact (looking_ofExcept (.error _)).atomic

theorem drawn_atomic : Atomic (drawn env args) :=
  (certain_get.bind fun _ => certain_noted _ _).atomic

theorem hasKey_atomic : Atomic (hasKey env args) := (certain_pure _).atomic

theorem increment_certain (counter entry : String) (delta : Int64) :
    Certain (increment counter entry delta) :=
  certain_get.bind fun _ => certain_noted _ _

theorem addCount_atomic : Atomic (addCount env args) :=
  (looking_lift _).bind fun _ => ((increment_certain _ _ _).bind fun _ => certain_pure _).atomic

theorem addPenalty_atomic : Atomic (addPenalty env args) :=
  (looking_lift _).bind fun _ => (certain_noted _ _).atomic

theorem hasPenalty_atomic : Atomic (hasPenalty env args) :=
  (looking_lift _).bind fun _ => (certain_get.bind fun _ => certain_pure _).atomic

theorem checkRate_atomic : Atomic (checkRate env args) := by
  refine (looking_lift _).bind fun _ => (looking_lift _).bind fun _ => atomic_ite ?_ ?_
  · exact atomic_throw_bind _ _
  · refine looking_get.bind fun c => atomic_ite (certain_pure _).atomic ?_
    refine ((increment_certain _ _ _).bind fun n => ?_).atomic
    split
    · exact certain_noted _ _
    · exact certain_pure _

end Bodies

theorem strings_isAtomic : ∀ b ∈ strings, b.IsAtomic := by
  simp [strings, make_isAtomic, collect_atomic, substring_atomic]

theorem conversions_isAtomic : ∀ b ∈ conversions, b.IsAtomic := by
  simp [conversions, make_isAtomic, readInBase_atomic]

theorem math_isAtomic : ∀ b ∈ math, b.IsAtomic := by
  simp [math, onFloatIs]

theorem ciphers_isAtomic : ∀ b ∈ ciphers, b.IsAtomic := by
  simp [ciphers, encrypting]

theorem digests_isAtomic : ∀ b ∈ digests, b.IsAtomic := by
  simp [digests, hashOf, hashOfBase64, keyedHash, encoding, decoding, lift_isAtomic]

theorem times_isAtomic : ∀ b ∈ times, b.IsAtomic := by
  simp [times, make_isAtomic, timeOfInteger_atomic, formatted_atomic]

theorem queries_isAtomic : ∀ b ∈ queries, b.IsAtomic := by
  simp [queries, onQuery]

theorem identifiers_isAtomic : ∀ b ∈ identifiers, b.IsAtomic := by
  simp [identifiers, hasVersion, make_isAtomic, drawn_atomic]

theorem tables_isAtomic : ∀ b ∈ tables, b.IsAtomic := by
  simp [tables, make_isAtomic, hasKey_atomic]

theorem chance_isAtomic : ∀ b ∈ chance, b.IsAtomic := by
  simp [chance]

theorem rates_isAtomic : ∀ b ∈ rates, b.IsAtomic := by
  simp [rates, make_isAtomic, addCount_atomic, checkRate_atomic, addPenalty_atomic,
    hasPenalty_atomic]

theorem delivery_isAtomic : ∀ b ∈ delivery, b.IsAtomic := by
  simp [delivery]

theorem assertions_isAtomic : ∀ b ∈ assertions, b.IsAtomic := by
  simp [assertions, asserting, assertingTexts, assertingMatch]

theorem library_isAtomic {b : Builtin} (hb : b ∈ library) : b.IsAtomic :=
  of_library strings_isAtomic conversions_isAtomic math_isAtomic ciphers_isAtomic digests_isAtomic
    times_isAtomic
    queries_isAtomic identifiers_isAtomic tables_isAtomic chance_isAtomic rates_isAtomic
      delivery_isAtomic
    assertions_isAtomic hb

theorem run_atomic {b : Builtin} (hb : b ∈ library) (env : Environment) (args : List Value) :
    Atomic (b.run env args) :=
  (looking_lift _).bind fun _ => library_isAtomic hb env args

end Builtin

theorem Run.callBuiltin_of_error {b : Builtin} (hb : b ∈ Builtin.library) {env : Environment}
    {args : List Value} {m : Machine} {e : Stop FunctionError} {d : Context}
    (failed : b.run env args m.context = .error e d) :
    (Run.callBuiltin env b args m).2 = m := by
  obtain rfl := Builtin.run_atomic hb env args _ _ _ failed
  unfold Run.callBuiltin
  rw [failed]
  cases e with
  | cause e => cases e <;> rfl
  | panic => rfl

namespace Builtin

/-- A call that stops leaves the context as it was: for its arguments, in its body, with a value to
fall back on, as a test that did not pass, or in a panic. So does the program that made the call,
whether it goes on or not. -/
theorem failed_call_keeps {b : Builtin} (hb : b ∈ library) {env : Environment} {args : List Value}
    {c d : Context} {e : Stop FunctionError} (failed : b.run env args c = .error e d) :
    d = c ∧ ∀ m : Machine, m.context = c → (Run.callBuiltin env b args m).2 = m := by
  refine ⟨run_atomic hb env args c e d failed, ?_⟩
  rintro m rfl
  exact Run.callBuiltin_of_error hb failed

theorem failed_call_keeps_window :
    ∃ b ∈ library, ∃ d : Context,
      b.run
        (.of { Declarations.empty with
          ratecounters := [⟨.unknown, "hits"⟩]
          penaltyboxes := [⟨.unknown, "box"⟩] } .standard)
        [.ofString "key", .ident "hits", .ofInteger 1, .ofInteger 5, .ofInteger 0, .ident "box",
          .ofRTime .zero]
        Context.received =
          .error (.cause
            (.failed "ratelimit.check_rate" "window must be one of 1, 10 or 60 but got 5")) d ∧
      d = Context.received := by
  have found : ofName? "ratelimit.check_rate" =
      some (make "ratelimit.check_rate" [.string, .ident, .integer, .integer, .integer, .ident,
        .rtime] [] checkRate) :=
    rfl
  have member := List.mem_of_find?_eq_some found
  have kept {env args e d} (failed : Builtin.run _ env args Context.received = .error e d) :
      ∃ d, Builtin.run _ env args Context.received = .error e d ∧ d = Context.received :=
    ⟨d, failed, (failed_call_keeps member failed).1⟩
  exact ⟨_, member, kept rfl⟩

end Builtin

end EdgeCache
