import EdgeCache.Proofs.Library
import EdgeCache.Run.Expression

/-! Where the values of a run come from. A value that is computed is no literal any more, and none
of the computations makes a backend, so that both only ever come from the program. -/

namespace EdgeCache

namespace Value

def literalText? : Value → Option String
  | string s m => if m.literal then some s else none
  | _ => none

structure Made (d : Declarations) (v : Value) : Prop where
  computed : v.literalText? = none
  backend : ∀ b, v = .backend b → b ∈ d.backends

section Makers

variable (d : Declarations)

@[simp]
theorem made_ofInteger (n : Int64) : (ofInteger n).Made d := ⟨rfl, fun _ h => nomatch h⟩

@[simp]
theorem made_ofInt (n : Int) : (ofInt n).Made d := ⟨rfl, fun _ h => nomatch h⟩

@[simp]
theorem made_ofFloat (x : Float) : (ofFloat x).Made d := ⟨rfl, fun _ h => nomatch h⟩

@[simp]
theorem made_ofString (s : String) : (ofString s).Made d := ⟨rfl, fun _ h => nomatch h⟩

@[simp]
theorem made_ofChars (cs : List Char) : (ofChars cs).Made d := made_ofString d _

@[simp]
theorem made_ofBool (b : Bool) : (ofBool b).Made d := ⟨rfl, fun _ h => nomatch h⟩

@[simp]
theorem made_ofRTime (t : Duration) : (ofRTime t).Made d := ⟨rfl, fun _ h => nomatch h⟩

@[simp]
theorem made_ofTime (t : Instant) : (ofTime t).Made d := ⟨rfl, fun _ h => nomatch h⟩

@[simp]
theorem made_ofIp (a : Address) : (ofIp a).Made d := ⟨rfl, fun _ h => nomatch h⟩

@[simp]
theorem made_null : null.Made d := ⟨rfl, fun _ h => nomatch h⟩

@[simp]
theorem made_unsetString : unsetString.Made d := ⟨rfl, fun _ h => nomatch h⟩

@[simp]
theorem made_unset (k : Kind) : (unset k).Made d := by
  cases k <;> exact ⟨rfl, fun _ h => nomatch h⟩

theorem made_acl (a : Acl) : (acl a).Made d := ⟨rfl, fun _ h => nomatch h⟩

theorem made_table (name : String) : (table name).Made d := ⟨rfl, fun _ h => nomatch h⟩

theorem made_ident (name : String) : (ident name).Made d := ⟨rfl, fun _ h => nomatch h⟩

theorem made_backend {d : Declarations} {b : Backend} (hb : b ∈ d.backends) : (backend b).Made d :=
  ⟨rfl, fun _ h => by cases h; exact hb⟩

theorem made_asLiteral {v : Value} (h : v.Made d) (hv : v.kind ≠ .string) : v.asLiteral.Made d := by
  refine ⟨?_, fun b hb => h.backend b ?_⟩
  · cases v <;> first | rfl | exact absurd rfl hv
  · cases v <;> cases hb
    rfl

@[simp]
theorem made_ofChars_getD (o : Option (List Char)) : ((o.map ofChars).getD unsetString).Made d := by
  cases o
  · exact made_unsetString d
  · exact made_ofChars d _

end Makers

section Operators

variable {d : Declarations} {v l r : Value}

theorem applyPrefix_made {op : PrefixOp} (h : r.applyPrefix op = .ok v) : v.Made d := by
  cases op <;> cases r <;> simp only [applyPrefix, truth?] at h <;> cases h <;>
    exact ⟨rfl, fun _ h => nomatch h⟩

theorem operate_made {op : InfixOp} {k k' : Captures} (h : l.operate op r k = .ok (v, k')) :
    v.Made d := by
  cases op <;> simp only [operate] at h
  case plus =>
    obtain ⟨w, hw, h⟩ := bind_eq_ok h
    unfold concat at hw
    split at hw <;> cases hw
    cases h
    exact made_ofString d _
  all_goals
    obtain ⟨b, -, h⟩ := bind_eq_ok h
    cases h
    exact made_ofBool d _

theorem literalText?_of_sought? {pattern subject : String}
    (h : l.sought? r = some (pattern, subject)) :
    r.literalText? = some pattern := by
  unfold sought? at h
  split at h
  · split at h <;> cases h
    simp only [literalText?, *, if_true]
  · cases h

end Operators

end Value

namespace Run

variable {d : Declarations} {text : String} {v : Value}

theorem ipLiteral_made (h : ipLiteral text = .ok v) : v.Made d := by
  unfold ipLiteral at h
  split at h <;> cases h
  exact ⟨rfl, fun _ h => nomatch h⟩

theorem rtimeLiteral_made (h : rtimeLiteral text = .ok v) : v.Made d := by
  unfold rtimeLiteral at h
  split at h <;> cases h
  exact Value.made_asLiteral d (Value.made_ofRTime d _) nofun

end Run

def given? : EStateM.Result (Stop FunctionError) Context Value → Option Value
  | .ok v _ => some v
  | .error (.cause (.fallback _ _ v)) _ => some v
  | .error _ _ => none

structure Final {α : Type} (r : Except FunctionError α) : Prop where
  never : ∀ name text v, r ≠ .error (.fallback name text v)

theorem final_ok {α : Type} (a : α) : Final (.ok a) := ⟨fun _ _ _ h => nomatch h⟩

theorem given?_check {α : Type} {r : Except FunctionError α}
    {f : α → EStateM (Stop FunctionError) Context Value} {c : Context} {v : Value} (hr : Final r)
    (h : given? ((Stop.lift r >>= f) c) = some v) :
    ∃ a, given? (f a c) = some v := by
  cases r with
  | ok a => exact ⟨a, h⟩
  | error e =>
    cases e with
    | fallback => exact absurd rfl (hr.never _ _ _)
    | _ => cases h

structure Body.Gives (f : Body) : Prop where
  given : ∀ {env args c v}, given? (f env args c) = some v → v.Made env.declarations ∨ v ∈ args

theorem Body.Gives.of_made {f : Body}
    (h : ∀ {env args c v}, given? (f env args c) = some v → v.Made env.declarations) : f.Gives :=
  ⟨fun hf => .inl (h hf)⟩

def Makes (d : Declarations) (r : Except String Value) : Prop := ∀ v, r = .ok v → v.Made d

namespace Builtin

abbrev Gives (b : Builtin) : Prop := b.body.Gives

section Makers

variable (name : String) (required optional : List Parameter)

@[simp]
theorem make_gives {f : Body} (h : f.Gives) : (make name required optional f).Gives := h

@[simp]
theorem plain_gives {f : List Value → Value} (h : ∀ d args, (f args).Made d) :
    (plain name required optional f).Gives :=
  .of_made fun hf => by cases hf; exact h _ _

@[simp]
theorem failing_gives {f : List Value → Except String Value} (h : ∀ d args, Makes d (f args)) :
    (failing name required optional f).Gives := by
  refine .of_made fun {_ args _ _} hf => ?_
  simp only [failing, make] at hf
  cases hr : f args <;> rw [hr] at hf <;> cases hf
  exact h _ _ _ hr

@[simp]
theorem drawing_gives {draw : List Value → Generator → Value × Generator}
    (h : ∀ d args g, (draw args g).1.Made d) : (drawing name required optional draw).Gives :=
  .of_made fun hf => by cases hf; exact h _ _ _

@[simp]
theorem onFloat_gives (f : Float → Marked) : (onFloat name f).Gives := by
  refine .of_made fun {_ args _ _} hf => ?_
  simp only [onFloat, make] at hf
  rcases hr : f (Arguments.float args 0) with ⟨y, _ | mark⟩ <;> rw [hr] at hf <;> cases hf <;>
    exact Value.made_ofFloat _ _

@[simp]
theorem asStatement_gives {b : Builtin} (h : b.Gives) : b.asStatement.Gives := h

end Makers

section Bodies

variable (d : Declarations) (args : List Value)

@[simp]
theorem makes_ok {v : Value} (h : v.Made d) : Makes d (.ok v) := fun _ hw => by cases hw; exact h

@[simp]
theorem makes_error (text : String) : Makes d (.error text) := fun _ h => nomatch h

@[simp]
theorem integerText_makes : Makes d (integerText args) := by
  simp only [integerText]
  split <;> simp

@[simp]
theorem firstAddress_makes (read : String → Option Address) : Makes d (firstAddress read args) := by
  unfold firstAddress
  split <;> simp

@[simp]
theorem replaceMatches_makes (all : Bool) : Makes d (replaceMatches all args) := by
  simp only [replaceMatches]
  split <;> simp

@[simp]
theorem filterMatches_makes (kept : Bool) : Makes d (filterMatches kept args) := by
  simp only [filterMatches]
  split <;> simp

@[simp]
theorem moved_makes (move : Instant → Duration → Option Instant) : Makes d (moved move args) := by
  unfold moved
  split <;> simp

@[simp]
theorem hexTime_makes : Makes d (hexTime args) := by
  simp only [hexTime]
  split
  · exact makes_error d _
  · split
    · exact makes_error d _
    · split <;> simp

@[simp]
theorem named_makes (make : Uuid → List UInt8 → Uuid) : Makes d (named make args) := by
  unfold named
  split <;> simp [ofUuid]

theorem makes_bind {α : Type} {x : Except String α} {f : α → Except String Value}
    (h : ∀ a, Makes d (f a)) : Makes d (x >>= f) := by
  intro v hv
  obtain ⟨a, -, hv⟩ := bind_eq_ok hv
  exact h a v hv

@[simp]
theorem encrypt_makes (coding : Coding) : Makes d (encrypt coding args) := by
  unfold encrypt
  dsimp only
  split
  · exact makes_error d _
  · split
    · exact makes_bind d fun _ => makes_bind d fun _ => makes_bind d fun _ => makes_bind d
          fun _ => by
        split
        · exact makes_error d _
        · exact makes_bind d fun _ => makes_ok d (Value.made_ofChars d _)
    · refine makes_bind d fun _ => makes_bind d fun _ => makes_bind d fun _ => ?_
      split
      · exact makes_error d _
      · exact makes_bind d fun _ => makes_ok d (Value.made_ofChars d _)

@[simp]
theorem digest_makes (hash : Hash) :
    Makes d (do return Value.ofChars (Hex.encode (hash (← decoded args)))) :=
  makes_bind d fun _ => makes_ok d (Value.made_ofChars d _)

theorem timedHash_makes (now : Instant) : Makes d (timedHash now args) := by
  refine makes_bind d fun secret => ?_
  dsimp only
  split
  · exact makes_bind d fun _ => makes_bind d fun _ => makes_ok d (Value.made_ofChars d _)
  · exact makes_bind d fun _ => makes_ok d (Value.made_ofChars d _)

theorem readInBase_gives : Body.Gives readInBase := by
  refine .of_made fun {_ args _ _} h => ?_
  unfold readInBase at h
  by_cases hb : Arguments.integer args 1 = 0 ∨ isBase (Arguments.integer args 1) = true
  · rw [if_pos hb] at h
    cases h
    exact Value.made_ofInteger _ _
  · rw [if_neg hb] at h
    cases h
    exact Value.made_ofInteger _ _

theorem timeOfInteger_gives : Body.Gives timeOfInteger := by
  refine .of_made fun {_ args _ _} h => ?_
  unfold timeOfInteger at h
  cases ht : Instant.ofSeconds? (Arguments.integer args 0).toInt 0 <;> rw [ht] at h <;> cases h <;>
    exact Value.made_ofTime _ _

theorem formatted_gives : Body.Gives formatted := by
  refine .of_made fun {_ args _ _} h => ?_
  unfold formatted at h
  cases hl : Layout.read? (Arguments.chars args 0) with
  | none =>
    rw [hl] at h
    cases h
  | some items =>
    rw [hl] at h
    dsimp only at h
    cases hw : Layout.write? (Arguments.time args 1) items <;> rw [hw] at h <;> cases h
    exact Value.made_ofChars _ _

theorem drawn_gives : Body.Gives drawn := .of_made fun h => by cases h; exact Value.made_ofChars _ _

theorem hasKey_gives : Body.Gives hasKey :=
  .of_made fun h => by cases h; exact Value.made_ofBool _ _

theorem collect_gives : Body.Gives collect := by
  refine .of_made fun h => ?_
  rw [collect_eq] at h
  split at h <;> cases h
  exact Value.made_null _

section Substring

variable {ε : Type} {s : Stop ε}

theorem sum_error {a b : Int64} (h : sum a b = .error s) : s = .panic := by
  unfold sum at h
  split at h <;> cases h
  rfl

theorem substringStart_error {size offset : Int64} (h : substringStart size offset = .error s) :
    s = .panic := by
  unfold substringStart at h
  split at h
  · exact sum_error h
  · cases h

theorem substringStop_error {size start : Int64} {length : Option Int64}
    (h : substringStop size start length = .error s) : s = .panic := by
  cases length with
  | none => cases h
  | some n =>
    rw [substringStop] at h
    split at h
    · exact sum_error h
    · cases added : (sum start n : Except (Stop ε) Int64) with
      | ok _ => rw [added] at h; cases h
      | error s' =>
        rw [added] at h
        cases h
        exact sum_error added

theorem substring?_error {cs : List Char} {offset : Int64} {length : Option Int64}
    (h : substring? cs offset length = .error s) : s = .panic := by
  obtain h | ⟨_, _, h⟩ := bind_eq_error h
  · exact substringStart_error h
  · split at h
    · cases h
    · obtain h | ⟨_, _, h⟩ := bind_eq_error h
      · exact substringStop_error h
      · split at h <;> cases h

end Substring

theorem substring_gives : Body.Gives substring := by
  refine .of_made fun {_ args _ _} h => ?_
  simp only [substring] at h
  cases computed : substring? (Arguments.chars args 0) (Arguments.integer args 1)
    (Arguments.integer? args 2) with
  | error s =>
    obtain rfl := substring?_error computed
    rw [computed] at h
    cases h
  | ok part =>
    rw [computed] at h
    cases h
    exact Value.made_ofChars_getD _ _

theorem requireCounter_final (function counter : String) :
    Final (requireCounter d function counter) := by
  unfold requireCounter
  split
  · exact final_ok _
  · exact ⟨fun _ _ _ h => nomatch h⟩

theorem requireBox_final (function box : String) : Final (requireBox d function box) := by
  unfold requireBox
  split
  · exact final_ok _
  · exact ⟨fun _ _ _ h => nomatch h⟩

theorem addCount_gives : Body.Gives addCount := by
  refine .of_made fun h => ?_
  obtain ⟨_, h⟩ := given?_check (requireCounter_final ..) h
  cases h
  exact Value.made_ofInteger _ _

theorem addPenalty_gives : Body.Gives addPenalty := by
  refine .of_made fun h => ?_
  obtain ⟨_, h⟩ := given?_check (requireBox_final ..) h
  cases h
  exact Value.made_null _

theorem hasPenalty_gives : Body.Gives hasPenalty := by
  refine .of_made fun h => ?_
  obtain ⟨_, h⟩ := given?_check (requireBox_final ..) h
  cases h
  exact Value.made_ofBool _ _

theorem checkRate_gives : Body.Gives checkRate := by
  refine .of_made fun h => ?_
  obtain ⟨_, h⟩ := given?_check (requireCounter_final ..) h
  obtain ⟨_, h⟩ := given?_check (requireBox_final ..) h
  split at h
  · cases h
  change given? ((if _ then _ else _ : EStateM (Stop FunctionError) Context Value) _) = _ at h
  split at h
  · cases h
    exact Value.made_ofBool _ _
  change given? ((if _ then _ else _ : EStateM (Stop FunctionError) Context Value) _) = _ at h
  split at h <;> cases h <;> exact Value.made_ofBool _ _

theorem entryValue?_made {kind : Kind} {e : Expression} {v : Value}
    (h : entryValue? d kind e = some v) :
    v.Made d := by
  unfold entryValue? at h
  split at h
  · cases h; exact Value.made_ofString d _
  · cases h; exact Value.made_ofBool d _
  · cases h; exact Value.made_ofInteger d _
  · cases h; exact Value.made_ofFloat d _
  · cases h; exact Value.made_ofFloat d _
  · obtain ⟨_, -, rfl⟩ := Option.map_eq_some_iff.mp h
    exact Value.made_ofRTime d _
  · obtain ⟨_, -, rfl⟩ := Option.map_eq_some_iff.mp h
    exact Value.made_ofIp d _
  · obtain ⟨_, -, rfl⟩ := Option.map_eq_some_iff.mp h
    exact Value.made_ofIp d _
  · obtain ⟨_, -, rfl⟩ := Option.map_eq_some_iff.mp h
    exact ⟨rfl, fun _ h => nomatch h⟩
  · obtain ⟨b, hb, rfl⟩ := Option.map_eq_some_iff.mp h
    refine ⟨rfl, fun b' h => ?_⟩
    cases h
    exact List.mem_of_find?_eq_some hb
  · cases h

theorem default_given (kind : Kind) {v : Value} (h : args[2]?.getD (.unset kind) = v) :
    v.Made d ∨ v ∈ args := by
  cases ha : args[2]? with
  | none =>
    rw [ha] at h
    exact .inl (h ▸ Value.made_unset d kind)
  | some w =>
    rw [ha] at h
    cases h
    exact .inr (List.mem_of_getElem? ha)

@[simp]
theorem lookingUp_gives (name : String) (kind : Kind) : (lookingUp name kind).Gives := by
  refine ⟨fun {env args c v} h => ?_⟩
  simp only [lookingUp, make, lookUp] at h
  split at h
  · cases h
    exact default_given _ _ kind rfl
  · split at h
    · cases h
      exact default_given _ _ kind rfl
    · split at h
      · cases h
        exact default_given _ _ kind rfl
      · split at h
        · cases h
          exact .inl (entryValue?_made _ ‹_›)
        · cases h
          exact default_given _ _ kind rfl

@[simp]
theorem testing_gives (name : String) (required optional : List Parameter)
    {f : Context → List Value → Except FunctionError Unit} (hf : ∀ c args, Final (f c args)) :
    (testing name required optional f).Gives := by
  refine .of_made fun h => ?_
  obtain ⟨_, h⟩ := given?_check (hf _ _) h
  cases h
  exact Value.made_null _

@[simp]
theorem expect_final (passed : Bool) (found : Value) (message : Option Value) (standard : String) :
    Final (expect passed found message standard) := by
  cases passed <;> exact ⟨fun _ _ _ h => nomatch h⟩

@[simp]
theorem assertingMatch_gives (name verb : String) (wanted : Bool) :
    (assertingMatch name verb wanted).Gives := by
  refine testing_gives _ _ _ fun _ args => ?_
  dsimp only
  split
  · exact ⟨fun _ _ _ h => nomatch h⟩
  · exact expect_final ..

@[simp]
theorem endedInRestart_final (c : Context) : Final (endedInRestart c args) := expect_final ..

@[simp]
theorem endedInError_final (c : Context) : Final (endedInError c args) := by
  unfold endedInError
  dsimp only
  split <;> exact expect_final ..

@[simp]
theorem made_ofUuid (u : Uuid) : (ofUuid u).Made d := Value.made_ofChars d _

@[simp]
theorem decoding_gives (name : String) (a : Base64.Alphabet) : (decoding name a).Gives := by
  refine plain_gives _ _ _ fun d args => ?_
  split <;> exact Value.made_ofString d _

end Bodies

theorem conversions_gives : ∀ b ∈ conversions, b.Gives := by
  simp [conversions, readInBase_gives]

theorem math_gives : ∀ b ∈ math, b.Gives := by
  simp [math, onFloatIs]

theorem ciphers_gives : ∀ b ∈ ciphers, b.Gives := by
  simp [ciphers, encrypting]

theorem digests_gives : ∀ b ∈ digests, b.Gives := by
  simp only [digests, hashOf, hashOfBase64, keyedHash, encoding, List.forall_mem_cons, plain_gives,
    failing_gives, decoding_gives, digest_makes, Value.made_ofChars, Value.made_ofBool,
    List.not_mem_nil, true_and, and_true, false_imp_iff, implies_true]
  refine .of_made fun {env args _ _} h => ?_
  simp only [make] at h
  cases hr : timedHash env.now args <;> rw [hr] at h <;> cases h
  exact timedHash_makes _ args _ _ hr

theorem times_gives : ∀ b ∈ times, b.Gives := by
  simp [times, timeOfInteger_gives, formatted_gives]

theorem queries_gives : ∀ b ∈ queries, b.Gives := by
  simp [queries, onQuery]

theorem identifiers_gives : ∀ b ∈ identifiers, b.Gives := by
  simp [identifiers, hasVersion, drawn_gives]

theorem tables_gives : ∀ b ∈ tables, b.Gives := by
  simp [tables, hasKey_gives]

theorem chance_gives : ∀ b ∈ chance, b.Gives := by
  simp [chance]

theorem rates_gives : ∀ b ∈ rates, b.Gives := by
  simp [rates, addCount_gives, checkRate_gives, addPenalty_gives, hasPenalty_gives]

theorem delivery_gives : ∀ b ∈ delivery, b.Gives := by
  intro b hb
  refine .of_made fun h => ?_
  simp only [delivery, List.mem_cons, List.not_mem_nil, or_false] at hb
  rcases hb with rfl | rfl | rfl <;> cases h <;> exact Value.made_null _

theorem assertions_gives : ∀ b ∈ assertions, b.Gives := by
  simp [assertions, asserting, assertingTexts]

theorem strings_gives : ∀ b ∈ strings, b.Gives := by
  simp [strings, collect_gives, substring_gives]

theorem library_gives {b : Builtin} (hb : b ∈ library) : b.Gives :=
  of_library strings_gives conversions_gives math_gives ciphers_gives digests_gives times_gives
    queries_gives identifiers_gives tables_gives chance_gives rates_gives delivery_gives
      assertions_gives hb

theorem checkTypes_final (name : String) (i : Nat) (ps : List Parameter) (args : List Value) :
    Final (checkTypes name i ps args) := by
  fun_induction checkTypes name i ps args with
  | case1 i ps v vs ih => exact ih
  | case2 => exact ⟨fun _ _ _ h => nomatch h⟩
  | case3 i ps v vs ih => exact ih
  | case4 => exact final_ok _

theorem check_final (b : Builtin) (args : List Value) : Final (b.check args) := by
  unfold check
  dsimp only
  split
  · exact ⟨fun _ _ _ h => nomatch h⟩
  · split
    · exact ⟨fun _ _ _ h => nomatch h⟩
    · split
      · exact ⟨fun _ _ _ h => nomatch h⟩
      · exact checkTypes_final ..

theorem run_gives {b : Builtin} (hb : b ∈ library) {env : Environment} {c : Context}
    {args : List Value} {v : Value} (h : given? (b.run env args c) = some v) :
    v.Made env.declarations ∨ v ∈ args := by
  obtain ⟨_, h⟩ := given?_check (check_final b args) h
  exact (library_gives hb).given h

end Builtin

end EdgeCache
