import EdgeCache.Proofs.Contract
import EdgeCache.Proofs.Steps

/-! What requests store. Properties of the values in slots, of those in locals and of the backend
that the single writes keep are kept by every run, so that the writes are looked at once. -/

namespace EdgeCache

open Relation (ReflTransGen)

def Value.isPlain (v : Value) : Bool := !v.isLiteral && v.kind != .backend

namespace Value

variable {v : Value}

theorem isPlain_getD (o : Option String) : ((o.map ofString).getD unsetString).isPlain = true := by
  cases o <;> rfl

theorem isLiteral_of_isPlain (h : v.isPlain = true) : v.isLiteral = false := by
  unfold isPlain at h
  simp_all

theorem made_of_isPlain (d : Declarations) (h : v.isPlain = true) : v.Made d := by
  constructor
  · cases v <;> first | rfl | simp_all [isPlain, isLiteral, literalText?]
  · rintro b rfl
    simp [isPlain, kind] at h

theorem eq_backend_of_assign {b : Backend} (h : assignBackend op v = .ok b) : v = .backend b := by
  unfold assignBackend at h
  split at h
  · cases h
  · split at h <;> cases h
    rfl

end Value

namespace Variable

variable {env : Environment} {c : Context} {x : Variable} {s : Scope} {name : String} {v : Value}

def isPlain : Variable → Bool
  | .reading (.constant v) => v.isPlain
  | _ => true

theorem special_isPlain (s : Scope) : (special s).all (fun p => p.2.isPlain) = true := by
  cases s <;> decide

theorem shared_isPlain : shared.all (fun p => p.2.isPlain) = true := by decide

theorem ofName?_isPlain (h : ofName? s name = some x) : x.isPlain = true :=
  forall_ofName? special_isPlain shared_isPlain (fun _ => rfl) (fun _ => rfl) rfl (fun _ _ => rfl) h

inductive Shows (c : Context) : Variable → Value → Prop
  | slot (s : Slot) : Shows c (.slot s) (c.slot s)
  | local (n : String) {w : Value} (found : c.locals.get? n = some w) : Shows c (.local n) w
  | backend {b : Backend} (found : c.backend = some b) : Shows c .backend (.backend b)
  | plain (y : Variable) {w : Value} (h : w.isPlain = true) : Shows c y w

theorem movedDays_isPlain {t : Instant} {days : Int} (h : movedDays t days = .ok v) :
    v.isPlain = true := by
  unfold movedDays at h
  split at h <;> cases h
  rfl

theorem readingOf_isPlain {r : Reading} (hr : (Variable.reading r).isPlain = true)
    (h : readingOf env c r = .ok v) : v.isPlain = true := by
  cases r with
  | constant w =>
    cases h
    exact hr
  | notBefore | notAfter => exact movedDays_isPlain h
  | _ => cases h; rfl

theorem shows_of_read (hx : x.isPlain = true) (h : x.read env c = .ok (some v)) : Shows c x v := by
  cases x with
  | slot s =>
    cases h
    exact .slot s
  | «local» n => exact .local n (Except.ok.inj h)
  | header | group =>
    cases h
    exact .plain _ (Value.isPlain_getD _)
  | backend =>
    simp only [read] at h
    split at h <;> cases h
    · exact .backend ‹_›
    · exact .plain _ rfl
  | reading r =>
    obtain ⟨w, hw, same⟩ := map_eq_ok h
    cases same
    exact .plain _ (readingOf_isPlain hx hw)
  | _ => cases h; exact .plain _ rfl

end Variable

theorem Context.getVariable_shows {env : Environment} {c : Context} {name : String} {v : Value}
    (h : c.getVariable env name = .ok v) :
    ∃ x, Variable.ofName? c.scope name = some x ∧ Variable.Shows c x v := by
  unfold getVariable at h
  split at h
  · cases h
  · rename_i x known
    obtain ⟨o, read, h⟩ := bind_eq_ok h
    split at h <;> cases h
    exact ⟨x, known, Variable.shows_of_read (Variable.ofName?_isPlain known) read⟩

/-- `text` is to hold of the string literals, `value` of the values of expressions, `searched` of
the texts that are read as patterns, and `slot`, `held` and `backend` of what a context stores. -/
structure Storage (d : Declarations) where
  text : String → Prop := fun _ => True
  value : Value → Prop := fun _ => True
  searched : String → Prop := fun _ => True
  slot : Slot → Value → Prop
  held : Value → Prop
  backend : Backend → Prop := fun _ => True
  declared : ∀ {s}, d.Subroutine s → Statement.AllWithin text s.body := by
    exact fun _ _ _ _ _ => trivial
  literal : ∀ {s}, text s → value (Value.ofString s).asLiteral := by exact fun _ => trivial
  made : ∀ {v}, v.Made d → value v := by exact fun _ => trivial
  sought : ∀ {l r : Value} {pattern subject}, value r → l.sought? r = some (pattern, subject) →
    searched pattern := by exact fun _ _ => trivial
  shown : ∀ {s v}, slot s v → value v := by exact fun _ => trivial
  taken : ∀ {v}, held v → value v := by exact fun _ => trivial
  chosen : ∀ {b}, backend b ↔ value (.backend b) := by exact fun {_} => Iff.rfl
  initial : ∀ s, slot s (Slot.initial s)
  written : ∀ {s} (t : String), (Slot.initial s).kind = .string → slot s (.ofString t)
  status : ∀ n, slot .objectStatus (.ofInteger n)
  copied : ∀ {s t v}, slot s v → (Slot.initial s).kind = (Slot.initial t).kind → slot t v
  assigned : ∀ {s op old v w}, slot s old → old.assign op v = .ok w → slot s w
  unset : ∀ k, held (.unset k)
  kept : ∀ {op old v w}, held old → value v → Variable.assignLocal old op v = .ok w → held w

structure Context.Stored {d : Declarations} (S : Storage d) (c : Context) : Prop where
  slot : ∀ s, S.slot s (c.slot s)
  locals : ∀ n v, c.locals.get? n = some v → S.held v
  backend : ∀ b, c.backend = some b → S.backend b

namespace Context.Stored

variable {env : Environment} {d : Declarations} {S : Storage d} {c e : Context} {name : String}
  {v : Value}

theorem of_same (h : c.Stored S) (hs : e.slots = c.slots) (hl : e.locals = c.locals)
    (hb : e.backend = c.backend) : e.Stored S := by
  refine ⟨fun s => ?_, fun n v hv => h.locals n v (hl ▸ hv), fun b he => h.backend b (hb ▸ he)⟩
  show S.slot s (e.slots.get s)
  rw [hs]
  exact h.slot s

theorem withLocals {locals : Register Value} (h : c.Stored S)
    (hl : ∀ n v, locals.get? n = some v → S.held v) : { c with locals := locals }.Stored S :=
  ⟨h.slot, hl, h.backend⟩

theorem withoutLocals (h : c.Stored S) : { c with locals := .empty }.Stored S :=
  h.withLocals fun _ _ hv => by cases hv

theorem setSlot {s : Slot} (hv : S.slot s v) (h : c.Stored S) : (c.setSlot s v).Stored S := by
  refine ⟨fun t => ?_, h.locals, h.backend⟩
  rw [slot_setSlot]
  split
  · rename_i same
    rwa [same]
  · exact h.slot t

theorem put {n : String} (hv : S.held v) (h : c.Stored S) :
    { c with locals := c.locals.put n v }.Stored S := by
  refine h.withLocals fun n' v' hv' => ?_
  rw [Register.get?_put] at hv'
  split at hv'
  · cases hv'
    exact hv
  · exact h.locals n' v' hv'

theorem setHeaders (headers : Headers) (m : MessageName) (h : c.Stored S) :
    (c.setHeaders headers m).Stored S := by
  refine h.of_same ?_ ?_ ?_ <;> cases m <;> rfl

theorem of_beside (beside : Beside c e) (h : c.Stored S) : e.Stored S := by
  refine ⟨fun s => ?_, fun n v hv => ?_, fun b hb => ?_⟩
  · by_cases hs : s = .lastError
    · subst hs
      rcases beside.error with same | ⟨text, set⟩
      · rw [same]
        exact h.slot _
      · rw [set]
        exact S.written text rfl
    · rw [beside.slot s hs]
      exact h.slot s
  · rw [beside.rest] at hv
    exact h.locals n v hv
  · rw [beside.rest] at hb
    exact h.backend b hb

theorem value {x : Variable} (h : c.Stored S) (shows : x.Shows c v) : S.value v := by
  cases shows with
  | slot s => exact S.shown (h.slot s)
  | «local» n found => exact S.taken (h.locals n v found)
  | backend found => exact S.chosen.mp (h.backend _ found)
  | plain _ plain => exact S.made (Value.made_of_isPlain d plain)

theorem write {x : Variable} {op : AssignOp} (h : c.Stored S) (hv : S.value v)
    (he : x.write c name op v = .ok e) : e.Stored S := by
  cases x with
  | slot s =>
    obtain ⟨w, hw, he⟩ := bind_eq_ok he
    cases he
    exact h.setSlot (S.assigned (h.slot s) (mapError_eq_ok hw))
  | «local» n =>
    simp only [Variable.write] at he
    split at he
    · cases he
    · rename_i old found
      obtain ⟨w, hw, he⟩ := bind_eq_ok he
      cases he
      exact h.put (S.kept (h.locals n old found) hv (mapError_eq_ok hw))
  | header m field =>
    obtain ⟨headers, -, he⟩ := bind_eq_ok he
    cases he
    exact h.setHeaders headers m
  | clientIdentity =>
    obtain ⟨_, -, he⟩ := bind_eq_ok he
    cases he
    exact h.of_same rfl rfl rfl
  | backend =>
    obtain ⟨b, hb, he⟩ := bind_eq_ok he
    cases he
    refine ⟨h.slot, h.locals, fun b' hb' => ?_⟩
    cases hb'
    rw [Value.eq_backend_of_assign (mapError_eq_ok hb)] at hv
    exact S.chosen.mpr hv
  | method m | url m | status m =>
    obtain ⟨_, -, he⟩ := bind_eq_ok he
    cases he
    refine h.of_same ?_ ?_ ?_ <;> cases m <;> rfl
  | group | reading => cases he

theorem setVariable {op : AssignOp} (h : c.Stored S) (hv : S.value v)
    (he : c.setVariable env name op v = .ok e) : e.Stored S := by
  unfold Context.setVariable at he
  split at he
  · cases he
  · exact h.write hv (mapError_eq_ok he)

theorem addVariable (h : c.Stored S) (he : c.addVariable env name v = .ok e) : e.Stored S := by
  unfold Context.addVariable at he
  split at he
  · obtain ⟨key, -, he⟩ := bind_eq_ok (mapError_eq_ok he)
    obtain ⟨value, -, he⟩ := bind_eq_ok he
    cases he
    exact h.setHeaders _ _
  · split at he <;> cases he

theorem unsetVariable (h : c.Stored S) (he : c.unsetVariable env name = .ok e) : e.Stored S := by
  unfold Context.unsetVariable at he
  split at he
  · obtain ⟨key, -, he⟩ := bind_eq_ok (mapError_eq_ok he)
    cases he
    exact h.setHeaders _ _
  · split at he <;> cases he
    exact h.put (S.unset _)
  · cases he

theorem act {m n : Machine} (h : m.context.Stored S) (ha : Act env S.value m n) :
    n.context.Stored S := by
  cases ha with
  | builtin resolved called =>
    rcases Builtin.call_effect (Builtin.of_resolve resolved).1 called with
      beside | ⟨name, headers, -, rfl⟩
    · exact h.of_beside beside
    · exact h.setHeaders headers name
  | declare name k => exact h.put (S.unset k)
  | assign right set => exact h.setVariable right set
  | append added => exact h.addVariable added
  | remove unset => exact h.unsetVariable unset
  | _ => exact h.of_same rfl rfl rfl

end Context.Stored

structure Machine.Stored {d : Declarations} (S : Storage d) (m : Machine) : Prop where
  context : m.context.Stored S
  searched : ∀ pattern subject, .search pattern subject ∈ m.history → S.searched pattern

namespace Machine.Stored

variable {env : Environment} {d : Declarations} {S : Storage d} {m n : Machine}

theorem withContext {c : Context} (h : m.Stored S) (hc : c.Stored S) :
    { m with context := c }.Stored S :=
  ⟨hc, h.searched⟩

theorem note {k : Mark} (h : m.Stored S)
    (hk : ∀ pattern subject, k = .search pattern subject → S.searched pattern) :
    (m.note k).Stored S := by
  refine ⟨h.context, fun pattern subject hm => ?_⟩
  rw [history_note] at hm
  rcases List.mem_append.mp hm with old | new
  · exact h.searched pattern subject old
  · exact hk pattern subject (List.mem_singleton.mp new).symm

theorem act (h : m.Stored S) (ha : Act env S.value m n) : n.Stored S := by
  have stored := h.context.act ha
  cases ha with
  | begin s => exact h.note nofun
  | search right sought =>
    refine h.note fun pattern subject hk => ?_
    cases hk
    exact S.sought right sought
  | _ => exact ⟨stored, h.searched⟩

theorem atStage (s : Scope) (h : m.Stored S) : (m.atStage s).Stored S :=
  ⟨h.context.withoutLocals.of_same rfl rfl rfl, h.searched⟩

end Machine.Stored

def Storage.contract {env : Environment} (S : Storage env.declarations) : Contract env where
  text := S.text
  value := S.value
  holds m := m.Stored S
  run m _ n := n.context.scope = m.context.scope
  declared := S.declared
  literal := S.literal
  made := S.made
  read h hv := by
    obtain ⟨x, -, shows⟩ := Context.getVariable_shows hv
    exact h.context.value shows
  refl _ := rfl
  trans h h' := h'.trans h
  scope h := h
  act h ha := ⟨h.act ha, Context.scope_eq_of_settled ha.settled⟩
  restart h _ := ⟨h.note nofun, rfl⟩
  error status text h _ := by
    have stored := (h.context.setSlot (S.status status)).setSlot
      (S.written (s := .objectReason) text rfl)
    exact ⟨(h.withContext stored).note nofun, rfl⟩
  push _ h := ⟨h.context.withoutLocals.of_same rfl rfl rfl, h.searched⟩
  pop h h' := ⟨h'.context.withLocals h.context.locals, h'.searched⟩
  framed _ h := h

namespace Lifecycle

variable {env : Environment} {origin : Origin} {S : Storage env.declarations} {c : Context}
  {m n : Machine}

theorem pickBackend_generator (env : Environment) (c : Context) :
    ∃ g, (pickBackend env c).2 = { c with generator := g } := by
  unfold pickBackend
  split
  · exact ⟨c.generator, rfl⟩
  · split
    · exact ⟨c.generator, rfl⟩
    · rename_i d _
      show ∃ g, (Director.selectFor d env c).2 = { c with generator := g }
      unfold Director.selectFor
      split
      · exact ⟨c.generator, rfl⟩
      · exact ⟨_, rfl⟩

theorem stored_change {f : Context → Context} (h : c.Stored S) (hf : Change env f) :
    (f c).Stored S := by
  cases hf with
  | ended e => cases e <;> exact h.of_same rfl rfl rfl
  | hash =>
    unfold fillHash
    split
    · exact h.setSlot (S.written _ rfl)
    · exact h
  | pick =>
    obtain ⟨g, hg⟩ := pickBackend_generator env c
    show (pickBackend env c).2.Stored S
    rw [hg]
    exact h.of_same rfl rfl rfl
  | noBackend e =>
    have error := h.setSlot (S.written (s := .lastError) e.message rfl)
    exact (error.setSlot (S.status 503)).setSlot (S.written "Service Unavailable" rfl)
  | receive b r =>
    have reason := h.setSlot (S.written (s := .backendReason) (r.status.phrase?.getD "") rfl)
    exact reason.of_same rfl rfl rfl
  | object =>
    have reason : S.slot .responseReason (c.slot .objectReason) :=
      S.copied (h.slot .objectReason) rfl
    exact (h.setSlot reason).of_same rfl rfl rfl
  | fetched =>
    have reason : S.slot .responseReason (c.slot .backendReason) :=
      S.copied (h.slot .backendReason) rfl
    exact (h.setSlot reason).of_same rfl rfl rfl
  | restart =>
    have error := (h.setSlot (S.initial .objectStatus)).setSlot (S.initial .objectReason)
    exact (error.setSlot (S.initial .hash)).of_same rfl rfl rfl
  | _ => exact h.of_same rfl rfl rfl

theorem stored_start (S : Storage env.declarations) (r : Request) (client : Address) (port : Nat)
    (g : Generator) : (Machine.start (.start env r client port g)).Stored S := by
  refine ⟨⟨S.initial, fun _ _ hv => ?_, fun b hb => ?_⟩, nofun⟩
  · cases hv
  · obtain ⟨name, -, found⟩ := Option.bind_eq_some_iff.mp hb
    exact S.chosen.mpr (S.made (Value.made_backend (List.mem_of_find?_eq_some found)))

theorem stored_step (h : m.Stored S) (hs : Step env origin m n) : n.Stored S := by
  cases hs with
  | stage s => exact h.note nofun
  | subroutine s =>
    have ran := Contract.subroutine_verdict (d := S.contract) s.subroutine s (h.atStage s)
    generalize Run.subroutine env s.subroutine s m = r at ran
    rcases r with ⟨e | f | _, n⟩
    · obtain ⟨q, hq, -, -, rfl⟩ := ran
      exact ⟨hq.context.of_same rfl rfl rfl, hq.searched⟩
    · exact ran.2.1
    · exact ran.1
  | ask b =>
    unfold ask
    dsimp only
    split <;> exact h.note nofun
  | again => exact h.note nofun
  | change hf => exact h.withContext (stored_change h.context hf)

theorem stored_steps (h : m.Stored S) (hs : ReflTransGen (Step env origin) m n) : n.Stored S := by
  induction hs with
  | refl => exact h
  | tail _ last ih => exact stored_step ih last

end Lifecycle

open Lifecycle (Step)

/-- The machines to which a request may come on its way, also in the middle of a subroutine. The
parts of a subroutine that run on the way have no other string literals than the program. -/
inductive Reached (p : Program) (env : Environment) (origin : Origin) : Machine → Prop
  | start (r : Request) (client : Address) (port : Nat) (g : Generator) :
    Reached p env origin (.start (.start env r client port g))
  | step {m n} : Reached p env origin m → Step env origin m n → Reached p env origin n
  | stage {m} (s : Scope) : Reached p env origin m → Reached p env origin (m.atStage s)
  | enter {m} (name : String) : Reached p env origin m → Reached p env origin (m.enter name)
  | push {m} (f : Frame) : Reached p env origin m → Reached p env origin (m.push f)
  | pop {m n} : Reached p env origin m → Reached p env origin n →
    Reached p env origin (n.pop m.context.locals)
  | begin {m} (s : Statement) : Reached p env origin m → Reached p env origin
    (m.note (.statement s))
  | captures {m} (k : Captures) : Reached p env origin m →
    Reached p env origin { m with context := { m.context with captures := k } }
  | evaluate {m} (depth : Nat) {e : Expression} (he : e.Within (p.Mentions ·)) :
    Reached p env origin m → Reached p env origin (Run.evaluate env depth e m).2
  | execute {m} (depth : Nat) {whole rest : List Statement}
    (hw : Statement.AllWithin (p.Mentions ·) whole) (hr : Statement.AllWithin (p.Mentions ·) rest) :
    Reached p env origin m → Reached p env origin (Run.runFrom env depth whole rest m).2

namespace Reached

variable {p : Program} {env : Environment} {origin : Origin} {m n : Machine}

theorem steps (h : Reached p env origin m) (hs : ReflTransGen (Step env origin) m n) :
    Reached p env origin n := by
  induction hs with
  | refl => exact h
  | tail _ last ih => exact ih.step last

theorem process (p : Program) (env : Environment) (origin : Origin) (r : Request) (client : Address)
    (port : Nat) (g : Generator) :
    Reached p env origin (Lifecycle.process env origin (.start (.start env r client port g))).2 :=
  (Reached.start r client port g).steps (Lifecycle.process_steps _)

theorem stored {S : Storage env.declarations} (mentioned : ∀ t, p.Mentions t → S.text t)
    (h : Reached p env origin m) : m.Stored S := by
  induction h with
  | start r client port g => exact Lifecycle.stored_start S r client port g
  | step _ hs ih => exact Lifecycle.stored_step ih hs
  | stage s _ ih => exact ih.atStage s
  | enter name _ ih => exact ⟨ih.context, ih.searched⟩
  | push f _ ih => exact S.contract.push f ih
  | pop _ _ ih ih' => exact S.contract.pop ih ih'
  | begin s _ ih => exact ih.note nofun
  | captures k _ ih => exact ih.withContext (ih.context.of_same rfl rfl rfl)
  | evaluate depth he _ ih =>
    have within : Expression.Within S.text _ := fun t ht => mentioned t (he t ht)
    exact ((Contract.gives_evaluate (d := S.contract) depth within).verdict ih).holds
  | execute depth hw hr _ ih =>
    have within {b} (hb : Statement.AllWithin (p.Mentions ·) b) : Statement.AllWithin S.text b :=
      fun s hs t ht => mentioned t (hb s hs t ht)
    have keeps := Contract.flows_runFrom (d := S.contract) depth (within hw) (within hr)
    exact (keeps.verdict ih).holds

end Reached

end EdgeCache
