import EdgeCache.Proofs.Enters
import EdgeCache.Proofs.Returned

/-! Typed look-ups in tables. A call of one gives a value whatever the tables hold: what the first
entry with the key stands for, where that is of the type of the look-up, and the default of the call
everywhere else. -/

namespace EdgeCache

inductive Expression.Converts (d : Declarations) : Kind → Expression → Value → Prop
  | string {t s} : Converts d .string (.string t s) (.ofString s)
  | bool {t b} : Converts d .bool (.boolean t b) (.ofBool b)
  | integer {t n} : Converts d .integer (.integer t n) (.ofInteger n)
  | whole {t n} : Converts d .float (.integer t n) (.ofFloat n.toFloat)
  | float {t x} : Converts d .float (.float t x) (.ofFloat x)
  | rtime {t s r} (read : Duration.read? s = some r) : Converts d .rtime (.rtime t s) (.ofRTime r)
  | ip {t s a} (read : Address.read? s = some a) : Converts d .ip (.ip t s) (.ofIp a)
  | text {t s a} (read : Address.read? s = some a) : Converts d .ip (.string t s) (.ofIp a)
  | acl {t n a} (declared : d.acl? n = some a) : Converts d .acl (.ident t n) (.acl a)
  | backend {t n b} (declared : d.backend? n = some b) : Converts d .backend (.ident t n)
    (.backend b)

def Declarations.Finds (d : Declarations) (T : Kind) (table key : String) (v : Value) : Prop :=
  ∃ t before e after, d.table? table = some t ∧ t.valueKind = T ∧ t.entries = before ++ e :: after ∧
    (∀ other ∈ before, other.key ≠ key) ∧ e.key = key ∧ e.value.Converts d T v

theorem Expression.Converts.kind {d : Declarations} {T : Kind} {e : Expression} {v : Value}
    (h : e.Converts d T v) :
    v.kind = T := by
  cases h <;> rfl

namespace Builtin

def typedLookups : List (String × Kind) :=
  [("table.lookup", .string), ("table.lookup_bool", .bool), ("table.lookup_integer", .integer),
    ("table.lookup_float", .float), ("table.lookup_ip", .ip), ("table.lookup_rtime", .rtime),
    ("table.lookup_acl", .acl), ("table.lookup_backend", .backend)]

section Resolved

variable {name : String} {T : Kind}

theorem ofName?_lookup (h : (name, T) ∈ typedLookups) : ofName? name = some (lookingUp name T) := by
  have all : ∀ p ∈ typedLookups, ofName? p.1 = some (lookingUp p.1 p.2) := by
    simp only [typedLookups, List.forall_mem_cons]
    exact ⟨rfl, rfl, rfl, rfl, rfl, rfl, rfl, rfl, nofun⟩
  exact all _ h

theorem all_contains {s : Scope} (h : s ∈ Scope.lifecycle) : ScopeSet.all.contains s = true := by
  revert h
  cases s <;> decide

theorem resolve_lookup (h : (name, T) ∈ typedLookups) {env : Environment} {c : Context}
    (stage : c.scope ∈ Scope.lifecycle) : resolve env c name = .ok (lookingUp name T) := by
  have reached : (lookingUp name T).scopes.contains c.scope = true := all_contains stage
  have common : (lookingUp name T).isTesting = false := rfl
  simp only [resolve, ofName?_lookup h, common, Bool.false_and, Bool.false_eq_true, if_false,
    reached, if_true]

theorem unset_lookup (h : (name, T) ∈ typedLookups) :
    (Value.unset T).kind = T ∨ Value.unset T = .null ∧ T ∈ [.ip, .acl, .backend] := by
  have all : ∀ p ∈ typedLookups,
      (Value.unset p.2).kind = p.2 ∨ Value.unset p.2 = .null ∧ p.2 ∈ [Kind.ip, .acl, .backend] := by
    simp only [typedLookups, List.forall_mem_cons]
    exact ⟨.inl rfl, .inl rfl, .inl rfl, .inl rfl, .inr ⟨rfl, by decide⟩, .inl rfl,
      .inr ⟨rfl, by decide⟩, .inr ⟨rfl, by decide⟩, nofun⟩
  exact all _ h

end Resolved

section Entries

variable {d : Declarations} {T : Kind} {table key name : String} {args : List Value} {v w : Value}

theorem entryValue?_eq_some {e : Expression} : entryValue? d T e = some v ↔ e.Converts d T v := by
  constructor
  · intro h
    unfold entryValue? at h
    split at h
    · cases h; exact .string
    · cases h; exact .bool
    · cases h; exact .integer
    · cases h; exact .whole
    · cases h; exact .float
    · obtain ⟨_, read, rfl⟩ := Option.map_eq_some_iff.mp h
      exact .rtime read
    · obtain ⟨_, read, rfl⟩ := Option.map_eq_some_iff.mp h
      exact .ip read
    · obtain ⟨_, read, rfl⟩ := Option.map_eq_some_iff.mp h
      exact .text read
    · obtain ⟨_, declared, rfl⟩ := Option.map_eq_some_iff.mp h
      exact .acl declared
    · obtain ⟨_, declared, rfl⟩ := Option.map_eq_some_iff.mp h
      exact .backend declared
    · cases h
  · intro h
    cases h with
    | string | bool | integer | whole | float => rfl
    | rtime h | ip h | text h | acl h | backend h => simp only [entryValue?, h, Option.map_some]

theorem entryAt?_eq_some {t : TableDeclaration} {e : TableEntry} :
    entryAt? t key = some e ↔
      e.key = key ∧ ∃ before after, t.entries = before ++ e :: after ∧ ∀ other ∈ before,
      other.key ≠ key := by
  simp only [entryAt?, List.find?_eq_some_iff_append, beq_iff_eq, Bool.not_eq_true',
    beq_eq_false_iff_ne]

theorem finds_iff : d.Finds T table key v ↔
    ∃ t e, d.table? table = some t ∧ t.valueKind = T ∧ entryAt? t key = some e ∧
    entryValue? d T e.value = some v := by
  constructor
  · rintro ⟨t, before, e, after, declared, kind, stands, others, found, converts⟩
    exact ⟨t, e, declared, kind, entryAt?_eq_some.mpr ⟨found, before, after, stands, others⟩,
      entryValue?_eq_some.mpr converts⟩
  · rintro ⟨t, e, declared, kind, first, converts⟩
    obtain ⟨found, before, after, stands, others⟩ := entryAt?_eq_some.mp first
    exact ⟨t, before, e, after, declared, kind, stands, others, found,
      entryValue?_eq_some.mp converts⟩

/-- A value that a function gives, or on which it falls back. -/
inductive Settles (v : Value) : Except FunctionError Value → Prop
  | given : Settles v (.ok v)
  | fallen {name text} : Settles v (.error (.fallback name text v))

theorem lookUp_of_finds (h : d.Finds T (Arguments.name args 0) (Arguments.string args 1) v) :
    lookUp name T d args = .ok v := by
  obtain ⟨t, e, declared, kind, first, converts⟩ := finds_iff.mp h
  simp only [lookUp, declared, kind, ne_eq, not_true_eq_false, if_false, first, converts]

theorem lookUp_of_not_finds
    (h : ∀ w, ¬ d.Finds T (Arguments.name args 0) (Arguments.string args 1) w) :
    Settles (args[2]?.getD (.unset T)) (lookUp name T d args) := by
  unfold lookUp
  dsimp only
  split
  · exact .fallen
  · rename_i t declared
    split
    · exact .fallen
    · rename_i kind
      split
      · exact .given
      · rename_i e first
        split
        · rename_i v converts
          exact absurd (finds_iff.mpr ⟨t, e, declared, not_not.mp kind, first, converts⟩) (h v)
        · exact .fallen

end Entries

section Arguments

variable {b : Builtin} {name : String} {args : List Value} {v : Value} {i : Nat} {k : Kind}

theorem kind_of_checkTypes {first : Nat} {ps : List Parameter}
    (h : checkTypes name first ps args = .ok ()) (wanted : ps[i]? = some (.is k))
    (given : args[i]? = some v) : v.kind = k := by
  induction ps generalizing first args i with
  | nil => cases wanted
  | cons p ps ih =>
    cases args with
    | nil => cases given
    | cons w rest =>
      have checked : p.accepts w = true ∧ checkTypes name (first + 1) ps rest = .ok () := by
        cases p with
        | anything => exact ⟨rfl, h⟩
        | is k =>
          unfold checkTypes at h
          split at h
          · exact ⟨beq_iff_eq.mpr ‹_›, h⟩
          · cases h
      cases i with
      | zero =>
        cases wanted
        cases given
        exact beq_iff_eq.mp checked.1
      | succ i => exact ih checked.2 wanted given

theorem kind_of_check (accepted : b.check args = .ok ()) (wanted : b.parameters[i]? = some (.is k))
    (given : args[i]? = some v) : v.kind = k := by
  unfold check at accepted
  dsimp only at accepted
  split at accepted
  · cases accepted
  · split at accepted
    · cases accepted
    · split at accepted
      · cases accepted
      · exact kind_of_checkTypes accepted wanted given

theorem run_lookingUp {env : Environment} (accepted : (lookingUp name k).check args = .ok ()) :
    (lookingUp name k).run env args = Stop.lift (lookUp name k env.declarations args) := by
  unfold run
  rw [accepted]
  rfl

end Arguments

end Builtin

namespace Run

variable {env : Environment} {value : Evaluator} {body : Runner} {m n : Machine} {name : String}
    {T : Kind}
  {t : Token} {es : List Expression} {args : List Value} {v : Value}

theorem callBuiltin_of_settles (accepted : (Builtin.lookingUp name T).check args = .ok ())
    (h : Builtin.Settles v (Builtin.lookUp name T env.declarations args)) :
    callBuiltin env (Builtin.lookingUp name T) args m = (.done v, m) := by
  unfold callBuiltin
  rw [Builtin.run_lookingUp accepted]
  generalize Builtin.lookUp name T env.declarations args = r at h
  cases h <;> rfl

theorem call_lookup (known : (name, T) ∈ Builtin.typedLookups)
    (plain : env.declarations.functional? name = none) (stage : m.context.scope ∈ Scope.lifecycle)
    (ran : arguments value (Builtin.lookingUp name T) 0 es m = (.done args, n))
    (accepted : (Builtin.lookingUp name T).check args = .ok ())
    (h : Builtin.Settles v (Builtin.lookUp name T env.declarations args)) :
    call env value body name es m = (.done v, n) := by
  unfold call
  rw [plain]
  exact (bind_of_done (resolved_done (Builtin.resolve_lookup known stage))).trans
    ((bind_of_done ran).trans (callBuiltin_of_settles accepted h))

/-- A call of a look-up always has a value: that of the first entry with the key, or else the
default. -/
theorem lookup_entry_or_default (known : (name, T) ∈ Builtin.typedLookups)
    (plain : env.declarations.functional? name = none) (stage : m.context.scope ∈ Scope.lifecycle)
    (ran : arguments value (Builtin.lookingUp name T) 0 es m = (.done args, n))
    (accepted : (Builtin.lookingUp name T).check args = .ok ()) (body : Runner) (t : Token) :
    ∃ v, evaluateWith env value body (.call t name es) m = (.done v, n) ∧
      (∀ w, env.declarations.Finds T (Arguments.name args 0) (Arguments.string args 1) w → v = w) ∧
      ((∀ w, ¬ env.declarations.Finds T (Arguments.name args 0) (Arguments.string args 1) w) →
        v = args[2]?.getD (.unset T)) ∧
      (v.kind = T ∨ v = .null ∧ T ∈ [.ip, .acl, .backend]) := by
  have called {v : Value} (h : Builtin.Settles v (Builtin.lookUp name T env.declarations args)) :
      evaluateWith env value body (.call t name es) m = (.done v, n) :=
    pinned_of_done t (call_lookup known plain stage ran accepted h)
  by_cases found : ∃ w, env.declarations.Finds T (Arguments.name args 0) (Arguments.string args 1) w
  · obtain ⟨v, finds⟩ := found
    have given : Builtin.lookUp name T env.declarations args = .ok v :=
      Builtin.lookUp_of_finds finds
    refine ⟨v, called (given ▸ .given), fun w other => ?_, fun none => absurd finds (none v),
      .inl ?_⟩
    · exact Except.ok.inj (given.symm.trans (Builtin.lookUp_of_finds other))
    · obtain ⟨_, _, _, _, _, _, _, _, _, converts⟩ := finds
      exact converts.kind
  · have missed := not_exists.mp found
    refine ⟨_, called (Builtin.lookUp_of_not_finds missed), fun w finds => absurd finds (missed w),
      fun _ => rfl, ?_⟩
    cases given : args[2]? with
    | none => exact Builtin.unset_lookup known
    | some w => exact .inl (Builtin.kind_of_check accepted rfl given)

def bounds : TableDeclaration :=
  ⟨.unknown, "bounds", some .integer,
    [⟨"a", .string .unknown "x"⟩, ⟨"a", .integer .unknown 5⟩, ⟨"b", .integer .unknown 7⟩]⟩

def bounded : Environment := .of { Declarations.empty with tables := [bounds] } .standard

def lookingIn (key : String) : List Expression :=
  [.ident .unknown "bounds", .string .unknown key, .integer .unknown 3]

theorem lookup_entry_or_default_bounds :
    let m := (Machine.start (.start bounded .empty .loopback 0 (.ofSeed 0))).atStage .recv
    m.context.scope ∈ Scope.lifecycle ∧
    bounded.declarations.functional? "table.lookup_integer" = none ∧
      (∃ v, evaluate bounded 2 (.call .unknown "table.lookup_integer" (lookingIn "b")) m =
        (.done v, m) ∧ v = .ofInteger 7) ∧
      ∃ v, evaluate bounded 2 (.call .unknown "table.lookup_integer" (lookingIn "a")) m =
        (.done v, m) ∧
        v = .integer 3 ⟨true, false⟩ := by
  intro m
  have stage : m.context.scope ∈ Scope.lifecycle := by decide
  have known : ("table.lookup_integer", Kind.integer) ∈ Builtin.typedLookups := by decide
  have plain : bounded.declarations.functional? "table.lookup_integer" = none := rfl
  have ran (key : String) :
      arguments (evaluate bounded 1) (Builtin.lookingUp "table.lookup_integer" .integer) 0
      (lookingIn key) m =
        (.done [.table "bounds", (Value.ofString key).asLiteral, .integer 3 ⟨true, false⟩], m) :=
        rfl
  have accepted (key : String) : (Builtin.lookingUp "table.lookup_integer" .integer).check
      [.table "bounds", (Value.ofString key).asLiteral, .integer 3 ⟨true, false⟩] = .ok () := rfl
  refine ⟨stage, plain, ?_, ?_⟩
  · obtain ⟨v, given, entry, -⟩ :=
      lookup_entry_or_default known plain stage (ran "b") (accepted "b") _ .unknown
    exact ⟨v, given, entry _ (Builtin.finds_iff.mpr ⟨bounds, _, rfl, rfl, rfl, rfl⟩)⟩
  · obtain ⟨v, given, -, missed, -⟩ :=
      lookup_entry_or_default known plain stage (ran "a") (accepted "a") _ .unknown
    refine ⟨v, given, missed fun w finds => ?_⟩
    obtain ⟨t, e, declared, -, first, converts⟩ := Builtin.finds_iff.mp finds
    cases declared
    cases first
    cases converts

end Run

end EdgeCache
