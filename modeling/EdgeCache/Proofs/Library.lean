import EdgeCache.Builtin.Library
import EdgeCache.Proofs.InPlace

/-! What a call of a predefined function can change. All of them but the one that collects the
values of a header leave the messages alone, and that one only replaces several values by one. -/

namespace EdgeCache

namespace Context

/-- A change of nothing but the generator, the last error, the hints for delivery and the rates. -/
structure Beside (c d : Context) : Prop where
  rest : d = { c with
    generator := d.generator
    slots := d.slots
    uncompressed := d.uncompressed
    pushed := d.pushed
    altSvc := d.altSvc
    penalties := d.penalties
    counts := d.counts }
  slot : ∀ s, s ≠ .lastError → d.slot s = c.slot s
  error : d.slot .lastError = c.slot .lastError ∨ ∃ text, d.slot .lastError = .ofString text

namespace Beside

variable {c d e : Context}

theorem refl (c : Context) : Beside c c := ⟨rfl, fun _ _ => rfl, .inl rfl⟩

theorem trans (h : Beside c d) (h' : Beside d e) : Beside c e := by
  refine ⟨by rw [h'.rest, h.rest], fun s hs => (h'.slot s hs).trans (h.slot s hs), ?_⟩
  rcases h'.error with same | set
  · rw [same]
    exact h.error
  · exact .inr set

theorem generator (c : Context) (g : Generator) : Beside c { c with generator := g } :=
  ⟨rfl, fun _ _ => rfl, .inl rfl⟩

theorem lastError (c : Context) (text : String) :
    Beside c (c.setSlot .lastError (.ofString text)) :=
  ⟨rfl, fun s hs => by rw [slot_setSlot, if_neg hs], .inr ⟨text, rfl⟩⟩

theorem counts (c : Context) (r : Register (Register Int64)) : Beside c { c with counts := r } :=
  ⟨rfl, fun _ _ => rfl, .inl rfl⟩

theorem penalties (c : Context) (r : Register (Register Instant)) :
    Beside c { c with penalties := r } :=
  ⟨rfl, fun _ _ => rfl, .inl rfl⟩

end Beside

end Context

def Headers.Joins (h h' : Headers) : Prop :=
  ∃ field separator key value, HeaderName.ofText? field = some key ∧ 2 ≤ (h.texts field).length ∧
    HeaderValue.ofText? (String.intercalate separator (h.texts field)) = some value ∧
    h' = h.insert key value

open Context (Beside)

structure Body.Quiet (f : Body) : Prop where
  beside : ∀ {env args c v d}, f env args c = .ok v d → Beside c d

theorem Body.Quiet.of_same {f : Body} (h : ∀ {env args c v d}, f env args c = .ok v d → d = c) :
    f.Quiet :=
  ⟨fun hf => h hf ▸ .refl _⟩

theorem Body.Quiet.of_except {f : Environment → List Value → Except FunctionError Value} :
    Body.Quiet fun env args => Stop.lift (f env args) :=
  .of_same fun h => (run_lift_eq_ok h).2

namespace Builtin

abbrev Quiet (b : Builtin) : Prop := b.body.Quiet

section Makers

variable (name : String) (required optional : List Parameter)

@[simp]
theorem make_quiet {f : Body} (h : f.Quiet) : (make name required optional f).Quiet := h

@[simp]
theorem plain_quiet (f : List Value → Value) : (plain name required optional f).Quiet :=
  .of_same fun h => by cases h; rfl

@[simp]
theorem failing_quiet (f : List Value → Except String Value) :
    (failing name required optional f).Quiet :=
  .of_except

@[simp]
theorem drawing_quiet (draw : List Value → Generator → Value × Generator) :
    (drawing name required optional draw).Quiet :=
  ⟨fun h => by cases h; exact .generator _ _⟩

@[simp]
theorem testing_quiet (f : Context → List Value → Except FunctionError Unit) :
    (testing name required optional f).Quiet := by
  refine .of_same fun {_ args c _ _} h => ?_
  have h : (do Stop.lift (f c args); return .null : EStateM (Stop FunctionError) Context Value) c =
      .ok _ _ := h
  obtain ⟨_, _, checked, h⟩ := run_bind_eq_ok h
  cases h
  exact (run_lift_eq_ok checked).2

@[simp]
theorem lookingUp_quiet (kind : Kind) : (lookingUp name kind).Quiet := .of_except

@[simp]
theorem onFloat_quiet (f : Float → Marked) : (onFloat name f).Quiet := by
  refine ⟨fun {_ args c _ _} h => ?_⟩
  simp only [onFloat, make] at h
  rcases hf : f (Arguments.float args 0) with ⟨y, _ | mark⟩ <;> rw [hf] at h <;> cases h
  · exact .refl _
  · exact .lastError _ _

@[simp]
theorem asStatement_quiet {b : Builtin} (h : b.Quiet) : b.asStatement.Quiet := h

end Makers

section Bodies

theorem substring_quiet : Body.Quiet substring := by
  refine .of_same fun h => ?_
  obtain ⟨_, _, computed, h⟩ := run_bind_eq_ok h
  cases h
  exact (run_ofExcept_eq_ok computed).2

theorem readInBase_quiet : Body.Quiet readInBase := by
  refine ⟨fun {_ args _ _ _} h => ?_⟩
  unfold readInBase at h
  by_cases hb : Arguments.integer args 1 = 0 ∨ isBase (Arguments.integer args 1) = true
  · rw [if_pos hb] at h
    cases h
    exact .refl _
  · rw [if_neg hb] at h
    cases h
    exact .lastError _ _

theorem timeOfInteger_quiet : Body.Quiet timeOfInteger := by
  refine ⟨fun {_ args _ _ _} h => ?_⟩
  unfold timeOfInteger at h
  cases ht : Instant.ofSeconds? (Arguments.integer args 0).toInt 0 <;> rw [ht] at h <;> cases h
  · exact .lastError _ _
  · exact .refl _

theorem formatted_quiet : Body.Quiet formatted := by
  refine .of_same fun {_ args _ _ _} h => ?_
  unfold formatted at h
  cases hl : Layout.read? (Arguments.chars args 0) with
  | none =>
    rw [hl] at h
    cases h
  | some items =>
    rw [hl] at h
    dsimp only at h
    cases hw : Layout.write? (Arguments.time args 1) items <;> rw [hw] at h <;> cases h
    rfl

theorem drawn_quiet : Body.Quiet drawn := ⟨fun h => by cases h; exact .generator _ _⟩

theorem hasKey_quiet : Body.Quiet hasKey := .of_same fun h => by cases h; rfl

theorem penalize_beside (now : Instant) (c : Context) (box entry : String) (ttl : Duration) :
    Beside c (penalize now c box entry ttl) :=
  .penalties _ _

theorem increment_beside {counter entry : String} {delta n : Int64} {c d : Context}
    (h : increment counter entry delta c = .ok n d) : Beside c d := by
  cases h
  exact .counts _ _

theorem run_check {α : Type} {r : Except FunctionError Unit}
    {x : EStateM (Stop FunctionError) Context α} {a : α} {c d : Context}
    (h : (do Stop.lift r; x) c = .ok a d) : x c = .ok a d := by
  obtain ⟨_, _, checked, h⟩ := run_bind_eq_ok h
  rwa [(run_lift_eq_ok checked).2] at h

theorem addCount_quiet : Body.Quiet addCount := by
  refine ⟨fun h => ?_⟩
  obtain ⟨n, _, counted, h⟩ := run_bind_eq_ok (run_check h)
  cases h
  exact increment_beside counted

theorem addPenalty_quiet : Body.Quiet addPenalty := by
  refine ⟨fun h => ?_⟩
  cases run_check h
  exact penalize_beside ..

theorem hasPenalty_quiet : Body.Quiet hasPenalty := by
  refine .of_same fun h => ?_
  cases run_check h
  rfl

theorem checkRate_quiet : Body.Quiet checkRate := by
  refine ⟨fun h => ?_⟩
  have h := run_check (run_check h)
  split at h
  · cases h
  obtain ⟨c, _, read, h⟩ := run_bind_eq_ok h
  cases read
  split at h
  · cases h
    exact .refl _
  -- what is left has counted the entry
  obtain ⟨n, _, counted, h⟩ := run_bind_eq_ok h
  split at h <;> cases h
  · exact (increment_beside counted).trans (penalize_beside ..)
  · exact increment_beside counted

end Bodies

theorem conversions_quiet : ∀ b ∈ conversions, b.Quiet := by
  simp [conversions, readInBase_quiet]

theorem math_quiet : ∀ b ∈ math, b.Quiet := by
  simp [math, onFloatIs]

theorem ciphers_quiet : ∀ b ∈ ciphers, b.Quiet := by
  simp [ciphers, encrypting]

theorem digests_quiet : ∀ b ∈ digests, b.Quiet := by
  simp only [digests, hashOf, hashOfBase64, keyedHash, encoding, decoding, List.forall_mem_cons,
    plain_quiet, failing_quiet, List.not_mem_nil, true_and, and_true, false_imp_iff, implies_true]
  exact .of_except

theorem times_quiet : ∀ b ∈ times, b.Quiet := by
  simp [times, timeOfInteger_quiet, formatted_quiet]

theorem queries_quiet : ∀ b ∈ queries, b.Quiet := by
  simp [queries, onQuery]

theorem identifiers_quiet : ∀ b ∈ identifiers, b.Quiet := by
  simp [identifiers, hasVersion, drawn_quiet]

theorem tables_quiet : ∀ b ∈ tables, b.Quiet := by
  simp [tables, hasKey_quiet]

theorem chance_quiet : ∀ b ∈ chance, b.Quiet := by
  simp [chance]

theorem rates_quiet : ∀ b ∈ rates, b.Quiet := by
  simp [rates, addCount_quiet, checkRate_quiet, addPenalty_quiet, hasPenalty_quiet]

theorem delivery_quiet : ∀ b ∈ delivery, b.Quiet := by
  intro b hb
  refine ⟨fun h => ?_⟩
  simp only [delivery, List.mem_cons, List.not_mem_nil, or_false] at hb
  rcases hb with rfl | rfl | rfl <;> cases h <;> exact ⟨rfl, fun _ _ => rfl, .inl rfl⟩

theorem assertions_quiet : ∀ b ∈ assertions, b.Quiet := by
  simp [assertions, asserting, assertingTexts, assertingMatch]

theorem strings_quiet : ∀ b ∈ strings, b.Quiet ∨ b.body = collect := by
  have parts : (make "substr" [.string, .integer] [.integer] substring).Quiet := substring_quiet
  simp only [make] at parts
  simp [strings, make, asStatement, parts]

theorem of_library {P : Builtin → Prop} (hstrings : ∀ b ∈ strings, P b)
    (hconversions : ∀ b ∈ conversions, P b) (hmath : ∀ b ∈ math, P b)
    (hciphers : ∀ b ∈ ciphers, P b) (hdigests : ∀ b ∈ digests, P b) (htimes : ∀ b ∈ times, P b)
    (hqueries : ∀ b ∈ queries, P b) (hidentifiers : ∀ b ∈ identifiers, P b)
    (htables : ∀ b ∈ tables, P b) (hchance : ∀ b ∈ chance, P b) (hrates : ∀ b ∈ rates, P b)
    (hdelivery : ∀ b ∈ delivery, P b) (hassertions : ∀ b ∈ assertions, P b) {b : Builtin}
    (hb : b ∈ library) : P b := by
  simp only [library, List.mem_append] at hb
  rcases hb with
    ((((((((((((hb | hb) | hb) | hb) | hb) | hb) | hb) | hb) | hb) | hb) | hb) | hb) | hb)
  · exact hstrings b hb
  · exact hconversions b hb
  · exact hmath b hb
  · exact hciphers b hb
  · exact hdigests b hb
  · exact htimes b hb
  · exact hqueries b hb
  · exact hidentifiers b hb
  · exact htables b hb
  · exact hchance b hb
  · exact hrates b hb
  · exact hdelivery b hb
  · exact hassertions b hb

theorem library_quiet {b : Builtin} (hb : b ∈ library) : b.Quiet ∨ b.body = collect := by
  have quiet {l : List Builtin} (h : ∀ b ∈ l, b.Quiet) : ∀ b ∈ l, b.Quiet ∨ b.body = collect :=
    fun b hb => .inl (h b hb)
  exact of_library strings_quiet (quiet conversions_quiet) (quiet math_quiet) (quiet ciphers_quiet)
    (quiet digests_quiet) (quiet times_quiet) (quiet queries_quiet) (quiet identifiers_quiet)
    (quiet tables_quiet) (quiet chance_quiet) (quiet rates_quiet) (quiet delivery_quiet)
    (quiet assertions_quiet) hb

section Collect

variable {env : Environment} {c d : Context} {args : List Value} {v : Value}

theorem headerName_eq_ok {field : String} {key : HeaderName}
    (h : Variable.headerName field = .ok key) : HeaderName.ofText? field = some key := by
  unfold Variable.headerName at h
  split at h <;> cases h
  assumption

theorem headerValue_eq_ok {field text : String} {value : HeaderValue}
    (h : Variable.headerValue field text = .ok value) : HeaderValue.ofText? text = some value := by
  unfold Variable.headerValue at h
  split at h <;> cases h
  assumption

theorem collectHeader_joins {name separator : String} (h : collectHeader c name separator = .ok d) :
    d = c ∨ ∃ m headers, (c.headers m).Joins headers ∧ d = c.setHeaders headers m := by
  unfold collectHeader at h
  split at h
  · cases h
  · rename_i m field _
    obtain ⟨key, hkey, h⟩ := bind_eq_ok h
    have hk := headerName_eq_ok hkey
    have ht : ((c.headers m).values key).filterMap HeaderValue.text? =
        (c.headers m).texts field := by
      simp only [Headers.texts, hk]
    simp only [ht] at h
    split at h
    · cases h
      exact .inl rfl
    · obtain ⟨value, hvalue, h⟩ := bind_eq_ok h
      cases h
      exact .inr ⟨m, _, ⟨field, separator, key, value, hk, by omega, headerValue_eq_ok hvalue, rfl⟩,
        rfl⟩

theorem collectField_eq (h : Headers) (field separator : String) :
    collectField field separator h = atOnce h () (do
      let key ← Variable.headerName field
      let values := (h.values key).filterMap HeaderValue.text?
      if values.length < 2 then return h
      else
        let value ← Variable.headerValue field (String.intercalate separator values)
        return h.insert key value) := by
  refine ofExcept_atOnce fun key => ?_
  show (if _ then (return () : EStateM ValueError Headers Unit)
    else Headers.insertText key field _) h = _
  dsimp only
  split
  · rfl
  · exact Headers.insertText_eq h field key _

theorem collectInPlace_eq (c : Context) (name separator : String) :
    collectInPlace name separator c = atOnce c () (collectHeader c name separator) := by
  unfold collectInPlace collectHeader
  cases Variable.headerOf? name with
  | none => rfl
  | some place =>
    obtain ⟨m, field⟩ := place
    refine (c.onHeaders_atOnce (collectField_eq _ field separator)).trans
      (congrArg (atOnce c ()) ?_)
    dsimp only
    cases Variable.headerName field with
    | error e => rfl
    | ok key =>
      dsimp only [bind, Except.bind]
      generalize ((c.headers m).values key).filterMap HeaderValue.text? = values
      by_cases few : values.length < 2
      · rw [if_pos few, if_pos few]
        exact congrArg Except.ok (c.setHeaders_self m)
      · rw [if_neg few, if_neg few]
        cases Variable.headerValue field _ <;> rfl

def collected (c : Context) (args : List Value) : Except ValueError Context :=
  collectHeader c (Arguments.name args 0) (((args[1]?).bind Value.string?).getD ", ")

theorem collect_eq (env : Environment) (args : List Value) (c : Context) :
    collect env args c =
      match collected c args with
      | .ok d => .ok .null d
      | .error e => .error (.cause (.failed "std.collect" e.message)) c := by
  have renamed := adaptExcept_atOnce
    (fun e : ValueError => Stop.cause (FunctionError.failed "std.collect" e.message))
    (collectInPlace_eq c (Arguments.name args 0) (((args[1]?).bind Value.string?).getD ", "))
  show EStateM.bind _ _ c = _
  unfold EStateM.bind
  rw [renamed]
  unfold collected
  cases collectHeader c (Arguments.name args 0) _ <;> rfl

theorem collect_joins (h : collect env args c = .ok v d) :
    d = c ∨ ∃ m headers, (c.headers m).Joins headers ∧ d = c.setHeaders headers m := by
  rw [collect_eq] at h
  split at h <;> cases h
  exact collectHeader_joins ‹_›

end Collect

theorem call_eq_ok {b : Builtin} {env : Environment} {c d : Context} {args : List Value}
    {v : Value} :
    b.call env c args = .ok (v, d) ↔ b.run env args c = .ok v d := by
  unfold call
  constructor
  · intro h
    split at h <;> cases h
    assumption
  · intro h
    rw [h]

theorem body_of_run {b : Builtin} {env : Environment} {c d : Context} {args : List Value}
    {v : Value} (h : b.run env args c = .ok v d) : b.body env args c = .ok v d :=
  run_check h

theorem call_effect {b : Builtin} (hb : b ∈ library) {env : Environment} {c d : Context}
    {args : List Value} {v : Value} (h : b.call env c args = .ok (v, d)) :
    Beside c d ∨ ∃ m headers, (c.headers m).Joins headers ∧ d = c.setHeaders headers m := by
  have h := body_of_run (call_eq_ok.mp h)
  rcases library_quiet hb with hq | hq
  · exact .inl (hq.beside h)
  · rw [hq] at h
    rcases collect_joins h with rfl | hj
    · exact .inl (.refl _)
    · exact .inr hj

variable {env : Environment} {c d : Context} {name : String} {b : Builtin}

theorem of_resolve (h : resolve env c name = .ok b) :
    b ∈ library ∧ b.scopes.contains c.scope = true := by
  unfold resolve at h
  split at h
  · cases h
  · rename_i found
    split at h
    · cases h
    split at h <;> cases h
    exact ⟨List.mem_of_find?_eq_some found, ‹_›⟩

theorem scope_ne_unknown {set : ScopeSet} {s : Scope} (h : set.contains s = true) :
    s ≠ .unknown := by
  rintro rfl
  cases h

theorem resolve_congr (h : d.scope = c.scope) : resolve env d name = resolve env c name := by
  unfold resolve
  rw [h]

end Builtin

namespace Context

theorem Beside.settled {c d : Context} (h : Beside c d) : d.settled = c.settled := by
  rw [h.rest]
  rfl

theorem Beside.message {c d : Context} (h : Beside c d) : d.message = c.message := by
  rw [h.rest]
  funext m
  cases m <;> rfl

end Context

end EdgeCache
