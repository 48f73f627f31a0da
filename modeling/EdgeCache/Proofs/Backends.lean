import EdgeCache.Proofs.Marks
import EdgeCache.Proofs.Storage

/-! The backends of a request. Wherever a program takes a backend from, it is one of its
declarations, and what a slot holds never changes its type. -/

namespace EdgeCache

def Value.Declared (d : Declarations) (v : Value) : Prop := ∀ b, v = .backend b → b ∈ d.backends

namespace Value

variable {d : Declarations} {slot right v w : Value} {op : AssignOp}

theorem declared_of_kind (h : v.kind ≠ .backend) : v.Declared d := by
  rintro b rfl
  exact absurd rfl h

theorem assign_declared (hr : right.Declared d) (h : slot.assign op right = .ok v) :
    v.Declared d := by
  rintro b rfl
  have kind := kind_of_assign h
  cases slot with
  | backend old =>
    obtain ⟨new, hn, hv⟩ := bind_eq_ok h
    cases hv
    exact hr b (eq_backend_of_assign hn)
  | _ => cases kind

theorem assignLocal_declared {old : Value} (hv : v.Declared d)
    (h : Variable.assignLocal old op v = .ok w) : w.Declared d := by
  unfold Variable.assignLocal at h
  split at h
  · split at h <;> cases h
    · exact hv
    · exact hv
  · exact assign_declared hv h

end Value

theorem Slot.kind_initial_ne (s : Slot) : (Slot.initial s).kind ≠ .backend := by
  cases s with
  | waf w => cases w <;> nofun
  | _ => nofun

def Storage.anchored (d : Declarations) : Storage d where
  value := Value.Declared d
  slot s v := v.kind = (Slot.initial s).kind
  held := Value.Declared d
  backend b := b ∈ d.backends
  literal _ := Value.declared_of_kind nofun
  made h := h.backend
  shown := fun {s} _ hv => Value.declared_of_kind (hv ▸ s.kind_initial_ne)
  taken h := h
  chosen := ⟨fun h b hb => by cases hb; exact h, fun h => h _ rfl⟩
  initial _ := rfl
  written _ hs := hs.symm
  status _ := rfl
  copied hv same := hv.trans same
  assigned hv set := (Value.kind_of_assign set).trans hv
  unset k := (Value.made_unset d k).backend
  kept _ hv := Value.assignLocal_declared hv

abbrev Context.Anchored (d : Declarations) (c : Context) : Prop := c.Stored (.anchored d)

variable {p : Program} {env : Environment} {origin : Origin}

theorem Lifecycle.anchored_of_ways {r : Request} {client : Address} {port : Nat} {g : Generator}
    {a : Point} (h : Ways env origin (begins env r client port g) a) :
    a.2.context.Anchored env.declarations :=
  (stored_steps (stored_start _ r client port g) h.steps).context

/-- Wherever a request has come, also in the middle of a subroutine, each slot holds a value of the
type that it has in a fresh context. -/
theorem slots_typed (p : Program) (env : Environment) (origin : Origin) :
    (∀ r client port g,
      Reached p env origin (Lifecycle.process env origin (.start (.start env r client port g))).2) ∧
    ∀ m, Reached p env origin m → ∀ s r client port g,
      (m.context.slot s).kind = ((Context.start env r client port g).slot s).kind := by
  refine ⟨Reached.process p env origin, fun m reached s r client port g => ?_⟩
  have stored : m.Stored (.anchored env.declarations) := reached.stored fun _ _ => trivial
  exact stored.context.slot s

def countingBody : SubroutineDeclaration :=
  ⟨.unknown, "vcl_recv", none, [
    .set .unknown "waf.logdata" .assign (.integer .unknown 7),
    .set .unknown "client.socket.cwnd" .multiplication (.integer .unknown 3)]⟩

def counting : Program := ⟨[.subroutine countingBody]⟩

def countingIn : Environment :=
  .of { Declarations.empty with subroutines := [countingBody] } .standard

theorem slots_typed_counting :
    let final :=
      (Lifecycle.process countingIn .empty
          (.start (.start countingIn .empty .loopback 0 (.ofSeed 0)))).2
    Reached counting countingIn .empty final ∧
      (final.context.slot (.waf .logdata)).text = "7" ∧
      (final.context.slot (.waf .logdata)).kind = .string ∧
      (final.context.slot .socketWindow).text = "180" ∧
      (final.context.slot .socketWindow).kind = .integer := by
  intro final
  obtain ⟨ends, typed⟩ := slots_typed counting countingIn .empty
  have reached : Reached counting countingIn .empty final := ends ..
  have kinds (s : Slot) := typed final reached s .empty .loopback 0 (.ofSeed 0)
  exact ⟨reached, by decide +kernel, kinds (.waf .logdata), by decide +kernel, kinds .socketWindow⟩

end EdgeCache
