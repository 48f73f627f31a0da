import EdgeCache.Proofs.Resolvers
import EdgeCache.Run.Statement

/-! Writing in place does what writing to a copy does that replaces the context once nothing has
failed: a write that fails has not changed anything by then. -/

namespace EdgeCache

variable {σ τ ε δ α β : Type}

/-- What comes of a change that is made at once: the new state, or else the old one. -/
def atOnce (s : σ) (a : α) : Except ε σ → EStateM.Result ε σ α
  | .ok t => .ok a t
  | .error e => .error e s

section

variable {s t : σ} {a : α} {e : ε} {r : Except ε σ}

theorem eq_of_atOnce_error (h : atOnce s a r = .error e t) : t = s := by
  cases r with
  | ok u => cases h
  | error d =>
    cases h
    rfl

theorem eq_ok_of_atOnce {b : α} (h : atOnce s a r = .ok b t) : r = .ok t := by
  cases r <;> cases h
  rfl

theorem ofExcept_atOnce {r : Except ε β} {f : β → EStateM ε σ α} {g : β → Except ε σ}
    (h : ∀ b, f b s = atOnce s a (g b)) : (ofExcept r >>= f) s = atOnce s a (r >>= g) := by
  cases r with
  | ok b => exact h b
  | error e => rfl

theorem adaptExcept_atOnce {x : EStateM ε σ α} (f : ε → δ) (h : x s = atOnce s a r) :
    x.adaptExcept f s = atOnce s a (r.mapError f) := by
  unfold EStateM.adaptExcept
  rw [h]
  cases r <;> rfl

theorem true_atOnce {x : EStateM ε σ Unit} (h : x s = atOnce s () r) :
    (do x; return true : EStateM ε σ Bool) s = atOnce s true r := by
  show EStateM.bind x _ s = _
  unfold EStateM.bind
  rw [h]
  cases r <;> rfl

theorem onPart_atOnce {part : σ → τ} {put : σ → τ → σ} {x : EStateM ε τ α} {t : τ} {r : Except ε τ}
    (found : part s = t) (h : x t = atOnce t a r) (back : put s t = s) :
    onPart part put x s = atOnce s a (r >>= fun t => .ok (put s t)) := by
  unfold onPart
  rw [found, h]
  cases r with
  | ok t => rfl
  | error e => exact congrArg (EStateM.Result.error e) back

end

namespace Value

theorem assignInPlace_eq (op : AssignOp) (right slot : Value) :
    assignInPlace op right slot = atOnce slot () (slot.assign op right) := by
  cases slot with
  | integer a m => exact ofExcept_atOnce fun b => ofExcept_atOnce fun n => rfl
  | float x m => exact ofExcept_atOnce fun y => ofExcept_atOnce fun z => rfl
  | bool a m => exact ofExcept_atOnce fun b => ofExcept_atOnce fun c => rfl
  | string | rtime | time | ip | backend => exact ofExcept_atOnce fun _ => rfl
  | acl | table | ident | null => rfl

theorem assignLocalInPlace_eq (op : AssignOp) (right old : Value) :
    assignLocalInPlace op right old = atOnce old () (Variable.assignLocal old op right) := by
  by_cases empty : old = .null
  · subst empty
    cases op with
    | assign => cases right <;> rfl
    | _ => rfl
  · have usual : assignLocalInPlace op right old = assignInPlace op right old ∧
        Variable.assignLocal old op right = old.assign op right := by
      cases old with
      | null => exact absurd rfl empty
      | _ => exact ⟨rfl, rfl⟩
    rw [usual.1, usual.2, assignInPlace_eq]

end Value

namespace Headers

variable (h : Headers) (name : String)

theorem insertText_eq (key : HeaderName) (text : String) :
    insertText key name text h =
      atOnce h () (do return h.insert key (← Variable.headerValue name text)) :=
  ofExcept_atOnce fun _ => rfl

theorem assignInPlace_eq (op : AssignOp) (v : Value) :
    assignInPlace name op v h = atOnce h () (Variable.assignHeader h name op v) := by
  refine ofExcept_atOnce fun key => ?_
  cases op with
  | assign =>
    dsimp only
    split
    · rfl
    · exact insertText_eq h name key v.text
  | addition => exact insertText_eq h name key _
  | _ => rfl

theorem appendInPlace_eq (v : Value) :
    appendInPlace name v h = atOnce h () (do
      let key ← Variable.headerName name
      let value ← Variable.headerValue name v.text
      return h.append key value) :=
  ofExcept_atOnce fun _ => ofExcept_atOnce fun _ => rfl

theorem removeInPlace_eq :
    removeInPlace name h = atOnce h () (do
      let key ← Variable.headerName name
      return h.remove key) :=
  ofExcept_atOnce fun _ => rfl

end Headers

theorem Slots.put_get (slots : Slots) (s : Slot) : slots.put s (slots.get s) = slots := by
  refine Slots.ext (funext fun t => ?_)
  rw [Slots.get_put]
  split
  · rename_i same
    rw [same]
  · rfl

theorem Register.put_of_get? {r : Register α} {name : String} {a : α} (h : r.get? name = some a) :
    r.put name a = r := by
  obtain ⟨entries⟩ := r
  refine congrArg Register.mk ?_
  change entries.lookup name = some a at h
  induction entries with
  | nil => cases h
  | cons entry rest ih =>
    obtain ⟨n, b⟩ := entry
    by_cases same : name = n
    · subst same
      rw [List.lookup_cons_self] at h
      cases h
      exact if_pos rfl
    · rw [List.lookup_cons, beq_false_of_ne same] at h
      rw [putIn, if_neg same, ih h]

namespace Context

variable (c : Context)

theorem setSlot_self (s : Slot) : c.setSlot s (c.slot s) = c :=
  congrArg (fun slots => { c with slots := slots }) (c.slots.put_get s)

theorem setHeaders_self (m : MessageName) : c.setHeaders (c.headers m) m = c := by
  cases m <;> rfl

theorem onHeaders_atOnce {m : MessageName} {a : α} {x : EStateM ε Headers α} {r : Except ε Headers}
    (h : x (c.headers m) = atOnce (c.headers m) a r) :
    onPart (fun c : Context => c.headers m) (fun c h => c.setHeaders h m) x c =
      atOnce c a (r >>= fun h => .ok (c.setHeaders h m)) :=
  onPart_atOnce rfl h (c.setHeaders_self m)

end Context

namespace Place

def isThere (c : Context) : Place → Bool
  | «local» n => (c.locals.get? n).isSome
  | _ => true

variable {c : Context}

theorem replace_eq (made : Context → Except Cause β) (put : Context → β → Context) :
    replace made put c = atOnce c true (made c >>= fun b => .ok (put c b)) :=
  ofExcept_atOnce fun _ => rfl

theorem onHeaders_eq {m : MessageName} {x : EStateM ValueError Headers Unit}
    {r : Except ValueError Headers} (h : x (c.headers m) = atOnce (c.headers m) () r) :
    onHeaders m x c =
      atOnce c true (r.mapError Cause.value >>= fun headers => .ok (c.setHeaders headers m)) :=
  true_atOnce (c.onHeaders_atOnce (adaptExcept_atOnce Cause.value h))

theorem onLocal_eq {n : String} {old : Value} {x : Value → EStateM ValueError Value Unit}
    {r : Except ValueError Value} (found : c.locals.get? n = some old)
    (h : x old old = atOnce old () r) :
    onLocal n x c =
      atOnce c true
        (r.mapError Cause.value >>= fun v => .ok { c with locals := c.locals.put n v }) := by
  have part : (c.locals.get? n).getD old = old := by rw [found]; rfl
  have back : { c with locals := c.locals.put n old } = c := by rw [Register.put_of_get? found]
  unfold onLocal
  rw [found]
  exact true_atOnce (onPart_atOnce part (adaptExcept_atOnce Cause.value h) back)

theorem onLocal_none {n : String} {x : Value → EStateM ValueError Value Unit}
    (missing : c.locals.get? n = none) :
    onLocal n x c = .ok false c := by
  unfold onLocal
  rw [missing]

theorem assign_eq {name : String} {op : AssignOp} {v : Value} {p : Place}
    (there : p.isThere c = true) :
    p.assign name op v c = atOnce c true (p.toVariable.write c name op v) := by
  cases p with
  | slot s =>
    have assigned := adaptExcept_atOnce Cause.value (Value.assignInPlace_eq op v (c.slot s))
    exact true_atOnce (onPart_atOnce rfl assigned (c.setSlot_self s))
  | header m field => exact onHeaders_eq (Headers.assignInPlace_eq ..)
  | «local» n =>
    obtain ⟨old, found⟩ := Option.isSome_iff_exists.mp there
    have written : (Variable.local n).write c name op v =
        (Variable.assignLocal old op v).mapError Cause.value >>= fun w =>
          .ok { c with locals := c.locals.put n w } := by
      simp only [Variable.write, found]
      rfl
    rw [toVariable, written]
    exact onLocal_eq found (Value.assignLocalInPlace_eq ..)
  | clientIdentity | method | url | status | backend => exact replace_eq _ _

theorem append_header_eq {m : MessageName} {field : String} {v : Value} {c : Context} :
    (header m field).append v c = atOnce c true ((do
      let key ← Variable.headerName field
      let value ← Variable.headerValue field v.text
      return c.setHeaders ((c.headers m).append key value) m :
        Except ValueError Context).mapError Cause.value) := by
  refine (onHeaders_eq (Headers.appendInPlace_eq ..)).trans (congrArg (atOnce c true) ?_)
  cases Variable.headerName field with
  | error e => rfl
  | ok key => cases Variable.headerValue field v.text <;> rfl

theorem remove_header_eq {m : MessageName} {field : String} {c : Context} :
    (header m field).remove c = atOnce c true ((do
      let key ← Variable.headerName field
      return c.setHeaders ((c.headers m).remove key) m :
        Except ValueError Context).mapError Cause.value) := by
  refine (onHeaders_eq (Headers.removeInPlace_eq ..)).trans (congrArg (atOnce c true) ?_)
  cases Variable.headerName field <;> rfl

end Place

namespace Resolver

variable {act : Place → EStateM Cause Context Bool} {name : String} {c : Context} {p : Place}
    {rs : List Resolver}

theorem ask_none {r : Resolver} (unknown : r.place? c.scope name = none) :
    ask act name r c = .ok false c := by
  unfold ask
  rw [unknown]

theorem ask_some {r : Resolver} (known : r.place? c.scope name = some p) :
    ask act name r c = act p c := by
  unfold ask
  rw [known]

theorem firstOf_cons (r : Resolver) (rs : List Resolver) :
    firstOf act name (r :: rs) c =
      match ask act name r c with
      | .ok true d => .ok true d
      | .ok false d => firstOf act name rs d
      | .error e d => .error e d := by
  show EStateM.bind (ask act name r) _ c = _
  unfold EStateM.bind
  rcases ask act name r c with ⟨_ | _, d⟩ | ⟨e, d⟩ <;> rfl

theorem firstOf_none (unknown : ∀ r ∈ rs, r.place? c.scope name = none) :
    firstOf act name rs c = .ok false c := by
  induction rs with
  | nil => rfl
  | cons r rs ih =>
    rw [firstOf_cons, ask_none (unknown r List.mem_cons_self)]
    exact ih fun r hr => unknown r (List.mem_cons_of_mem _ hr)

theorem firstOf_some (one : ∀ r ∈ rs, r.place? c.scope name = none ∨ r.place? c.scope name = some p)
    (found : ∃ r ∈ rs, r.place? c.scope name = some p) (idle : ∀ d, act p c = .ok false d → d = c) :
    firstOf act name rs c = act p c := by
  induction rs with
  | nil =>
    obtain ⟨r, hr, -⟩ := found
    cases hr
  | cons r rs ih =>
    have later : ∀ r ∈ rs, r.place? c.scope name = none ∨ r.place? c.scope name = some p :=
      fun r hr => one r (List.mem_cons_of_mem _ hr)
    rcases one r List.mem_cons_self with unknown | known
    · rw [firstOf_cons, ask_none unknown]
      obtain ⟨r', hr', known⟩ := found
      rcases List.mem_cons.mp hr' with rfl | hr'
      · rw [unknown] at known
        cases known
      · exact ih later ⟨r', hr', known⟩
    · rw [firstOf_cons, ask_some known]
      cases done : act p c with
      | error e d => rfl
      | ok taken d =>
        cases taken with
        | true => rfl
        | false =>
          obtain rfl := idle d done
          -- the place is not there, and the other resolvers know no further one
          by_cases more : ∃ r ∈ rs, r.place? d.scope name = some p
          · exact (ih later more).trans done
          · refine firstOf_none fun r hr => ?_
            rcases later r hr with unknown | known
            · exact unknown
            · exact absurd ⟨r, hr, known⟩ more

end Resolver

namespace Context

open Variable (ofName?)

variable {env : Environment} {c : Context} {name : String} {x : Variable}
    {act : Place → EStateM Cause Context Bool}

theorem firstOf_of_unwritable (h : c.writable? name = none) :
    Resolver.firstOf act name Resolver.all c = .ok false c := by
  refine Resolver.firstOf_none fun r hr => ?_
  cases known : r.place? c.scope name with
  | none => rfl
  | some p =>
    obtain ⟨named, writable⟩ := Resolver.ofName?_of_place? hr known
    rw [writable?, named, Option.filter_some, if_pos writable] at h
    cases h

theorem firstOf_of_writable (h : c.writable? name = some x) :
    ∃ p : Place, x = p.toVariable ∧ ∀ act : Place → EStateM Cause Context Bool,
      (∀ result, act p c = atOnce c true result →
        Resolver.firstOf act name Resolver.all c = atOnce c true result) ∧
      (act p c = .ok false c → Resolver.firstOf act name Resolver.all c = .ok false c) := by
  obtain ⟨named, writable⟩ := Option.filter_eq_some_iff.mp h
  obtain ⟨r, hr, found⟩ := Resolver.place?_of_ofName? named writable
  obtain ⟨p, known⟩ := Option.isSome_iff_exists.mp found
  have same {r' : Resolver} {q : Place} (hr' : r' ∈ Resolver.all)
      (hq : r'.place? c.scope name = some q) :
      x = q.toVariable := by
    have known := (Resolver.ofName?_of_place? hr' hq).1
    rw [named] at known
    exact Option.some.inj known
  have one : ∀ r' ∈ Resolver.all, r'.place? c.scope name = none ∨
      r'.place? c.scope name = some p := by
    intro r' hr'
    cases other : r'.place? c.scope name with
    | none => exact .inl rfl
    | some q =>
      obtain rfl := Place.toVariable_injective ((same hr known).symm.trans (same hr' other))
      exact .inr rfl
  refine ⟨p, same hr known, fun act => ⟨fun result written => ?_, fun missing => ?_⟩⟩
  · have busy : ∀ d, act p c = .ok false d → d = c := by
      intro d idle
      rw [written] at idle
      cases result <;> cases idle
    exact (Resolver.firstOf_some one ⟨r, hr, known⟩ busy).trans written
  · have idle : ∀ d, act p c = .ok false d → d = c := by
      intro d idle
      rw [missing] at idle
      cases idle
      rfl
    exact (Resolver.firstOf_some one ⟨r, hr, known⟩ idle).trans missing

theorem notWritable_of_missing {n : String} (named : ofName? c.scope name = some (.local n))
    (missing : c.locals.get? n = none) :
    c.notWritable env name = .cause (.undefinedVariable name c.scope) := by
  have empty : (Variable.local n).read env c = .ok none := congrArg Except.ok missing
  have unread : c.getVariable env name = .error (.cause (.undefinedVariable name c.scope)) := by
    unfold getVariable
    rw [named]
    dsimp only
    rw [empty]
    rfl
  unfold notWritable
  rw [unread]

theorem write_taken {refusal : Context → Stop Cause} {r : Except Cause Context}
    (h : Resolver.firstOf act name Resolver.all c = atOnce c true r) :
    Resolver.write act refusal name c = atOnce c () (r.mapError .cause) := by
  show EStateM.bind ((Resolver.firstOf act name Resolver.all).adaptExcept Stop.cause) _ c = _
  unfold EStateM.bind
  rw [adaptExcept_atOnce Stop.cause h]
  cases r <;> rfl

theorem write_refused {refusal : Context → Stop Cause}
    (h : Resolver.firstOf act name Resolver.all c = .ok false c) :
    Resolver.write act refusal name c = atOnce c () (.error (refusal c)) := by
  show EStateM.bind ((Resolver.firstOf act name Resolver.all).adaptExcept Stop.cause) _ c = _
  unfold EStateM.bind EStateM.adaptExcept
  rw [h]
  rfl

theorem mapError_value_cause (r : Except ValueError α) :
    (r.mapError Cause.value).mapError Stop.cause = r.mapError fun e => .cause (.value e) := by
  cases r <;> rfl

section

variable (env : Environment) (name : String) (op : AssignOp) (v : Value) (c : Context)

theorem assignVariable_eq :
    assignVariable env name op v c = atOnce c () (c.setVariable env name op v) := by
  unfold assignVariable setVariable
  cases written : c.writable? name with
  | none => exact write_refused (firstOf_of_unwritable written)
  | some x =>
    obtain ⟨p, rfl, decides⟩ := firstOf_of_writable written
    cases there : p.isThere c with
    | true => exact write_taken ((decides _).1 _ (Place.assign_eq there))
    | false =>
      cases p with
      | «local» n =>
        have missing : c.locals.get? n = none :=
          Option.not_isSome_iff_eq_none.mp (Bool.eq_false_iff.mp there)
        have refused := (decides (Place.assign name op v)).2 (Place.onLocal_none missing)
        have named : ofName? c.scope name = some (.local n) :=
          (Option.filter_eq_some_iff.mp written).1
        rw [write_refused refused, notWritable_of_missing named missing]
        simp only [Place.toVariable, Variable.write, missing]
        rfl
      | _ => cases there

theorem appendVariable_eq :
    appendVariable env name v c = atOnce c () (c.addVariable env name v) := by
  have refused (h : Resolver.firstOf (Place.append v) name Resolver.all c = .ok false c)
      {r : Except (Stop Cause) Context} (stop : r = .error (notAddable env name c)) :
      appendVariable env name v c = atOnce c () r := by
    rw [stop]
    exact write_refused h
  unfold addVariable
  cases written : c.writable? name with
  | none =>
    refine refused (firstOf_of_unwritable written) ?_
    unfold notAddable
    cases Variable.headerOf? name <;> cases c.getVariable env name <;> rfl
  | some x =>
    obtain ⟨p, rfl, decides⟩ := firstOf_of_writable written
    cases p with
    | header m field =>
      refine (write_taken ((decides _).1 _ Place.append_header_eq)).trans ?_
      exact congrArg (atOnce c ()) (mapError_value_cause _)
    | _ =>
      refine refused ((decides _).2 rfl) ?_
      unfold notAddable
      cases Variable.headerOf? name <;> cases c.getVariable env name <;> rfl

theorem removeVariable_eq : removeVariable env name c = atOnce c () (c.unsetVariable env name) := by
  have refused (h : Resolver.firstOf Place.remove name Resolver.all c = .ok false c) :
      removeVariable env name c = atOnce c () (.error (c.notWritable env name)) := write_refused h
  unfold unsetVariable
  cases written : c.writable? name with
  | none => exact refused (firstOf_of_unwritable written)
  | some x =>
    obtain ⟨p, rfl, decides⟩ := firstOf_of_writable written
    cases p with
    | header m field =>
      refine (write_taken ((decides _).1 _ Place.remove_header_eq)).trans ?_
      exact congrArg (atOnce c ()) (mapError_value_cause _)
    | «local» n =>
      cases found : c.locals.get? n with
      | none =>
        simp only [Place.toVariable, found]
        exact refused ((decides _).2 (Place.onLocal_none found))
      | some old =>
        have removed : (Place.local n).remove c =
            atOnce c true (.ok { c with locals := c.locals.put n (Value.unset old.kind) }) :=
          Place.onLocal_eq (r := .ok (Value.unset old.kind)) found rfl
        simp only [Place.toVariable, found]
        exact write_taken ((decides _).1 _ removed)
    | _ => exact refused ((decides _).2 rfl)

end

/-- A write that fails leaves the context as it was, and an assignment that fails leaves its slot so
with its marks. -/
theorem failed_write_keeps (env : Environment) (name : String) (c : Context) :
    (∀ op v e d, assignVariable env name op v c = .error e d → d = c) ∧
    (∀ v e d, appendVariable env name v c = .error e d → d = c) ∧
    (∀ e d, removeVariable env name c = .error e d → d = c) ∧
    ∀ slot op right e left, Value.assignInPlace op right slot = .error e left → left = slot := by
  refine ⟨fun op v e d failed => ?_, fun v e d failed => ?_, fun e d failed => ?_,
    fun slot op right e left failed => ?_⟩
  · rw [assignVariable_eq] at failed
    exact eq_of_atOnce_error failed
  · rw [appendVariable_eq] at failed
    exact eq_of_atOnce_error failed
  · rw [removeVariable_eq] at failed
    exact eq_of_atOnce_error failed
  · rw [Value.assignInPlace_eq] at failed
    exact eq_of_atOnce_error failed

def received : Context :=
  (Context.start (.of .empty .standard) .empty .loopback 0 (.ofSeed 0)).enter .recv

theorem failed_write_keeps_received :
    (∃ d, assignVariable (.of .empty .standard) "client.socket.cwnd" .division
      (.ofInteger 0) received = .error (.cause (.value .divisionByZero)) d ∧ d = received) ∧
    (∃ d, appendVariable (.of .empty .standard) "req.http.X" (.ofString "a\nb") received =
      .error (.cause (.value (.invalidHeader "X: a\nb"))) d ∧ d = received) ∧
    (∃ d, removeVariable (.of .empty .standard) "req.url" received =
      .error (.cause (.readOnlyVariable "req.url" .recv)) d ∧ d = received) ∧
    ∃ left, Value.assignInPlace .logicalAnd (.ofInteger 1) (.unset .integer) =
      .error (.unsupportedOperator "&&=" .integer) left ∧ left = .unset .integer := by
  have kept (name : String) := failed_write_keeps (.of .empty .standard) name received
  refine ⟨⟨_, rfl, ?_⟩, ⟨_, rfl, ?_⟩, ⟨_, rfl, ?_⟩, ⟨_, rfl, ?_⟩⟩
  · exact (kept "client.socket.cwnd").1 .division (.ofInteger 0) _ _ rfl
  · exact (kept "req.http.X").2.1 (.ofString "a\nb") _ _ rfl
  · exact (kept "req.url").2.2.1 _ _ rfl
  · exact (kept "").2.2.2 (.unset .integer) .logicalAnd (.ofInteger 1) _ _ rfl

end Context

namespace Run

theorem editing_eq {x : EStateM (Stop Cause) Context Unit}
    {f : Context → Except (Stop Cause) Context} (h : ∀ c, x c = atOnce c () (f c)) :
    editing x = updating f := by
  funext m
  unfold editing updating
  rw [h]
  cases f m.context <;> rfl

variable (env : Environment) (name : String)

theorem editing_assign (op : AssignOp) (v : Value) :
    editing (Context.assignVariable env name op v) = updating fun c =>
      c.setVariable env name op v :=
  editing_eq (Context.assignVariable_eq env name op v)

theorem editing_append (v : Value) :
    editing (Context.appendVariable env name v) = updating fun c => c.addVariable env name v :=
  editing_eq (Context.appendVariable_eq env name v)

theorem editing_remove :
    editing (Context.removeVariable env name) = updating fun c => c.unsetVariable env name :=
  editing_eq (Context.removeVariable_eq env name)

end Run

end EdgeCache
