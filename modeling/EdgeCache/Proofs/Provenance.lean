import EdgeCache.Proofs.Declared
import EdgeCache.Proofs.Storage

/-! Where literals may be read from. A variable shows a computed value, whatever was assigned to it,
unless it is a local that took an address whole: such a local shows the address as the literal that
it was. -/

namespace EdgeCache

open Variable (isLocal)
open Control (Since Visited Path start)
open Statement (declaredKind? isAssigned)

namespace Value

variable {slot right v : Value} {op : AssignOp}

theorem isLiteral_of_assign (h : slot.assign op right = .ok v) : v.isLiteral = slot.isLiteral := by
  cases slot with
  | integer a m =>
    obtain ⟨b, -, h⟩ := bind_eq_ok h
    obtain ⟨n, -, h⟩ := bind_eq_ok h
    cases h
    rfl
  | float x m =>
    obtain ⟨y, -, h⟩ := bind_eq_ok h
    obtain ⟨z, -, h⟩ := bind_eq_ok h
    cases h
    rfl
  | bool a m =>
    obtain ⟨b, -, h⟩ := bind_eq_ok h
    obtain ⟨c, -, h⟩ := bind_eq_ok h
    cases h
    rfl
  | string | rtime | time | ip | backend =>
    obtain ⟨w, -, h⟩ := bind_eq_ok h
    cases h
    rfl
  | acl | table | ident | null => cases h

theorem isLiteral_unset (k : Kind) : (unset k).isLiteral = false := by
  cases k <;> rfl

end Value

theorem Slot.isLiteral_initial (s : Slot) : (Slot.initial s).isLiteral = false := by
  cases s with
  | waf w => cases w <;> rfl
  | _ => rfl

theorem Variable.kind_of_taken {old v w : Value} {op : AssignOp}
    (held : old.isLiteral = true → old.kind = .ip) (h : assignLocal old op v = .ok w)
    (literal : w.isLiteral = true) : w.kind = .ip := by
  unfold assignLocal at h
  split at h
  · -- of the values that a local takes whole only an address can be a literal
    split at h
    · cases h
      rfl
    · cases h
      cases literal
    · cases h
  · rw [Value.kind_of_assign h]
    exact held (Value.isLiteral_of_assign h ▸ literal)

def Storage.unmarked (d : Declarations) : Storage d where
  slot _ v := v.isLiteral = false
  held v := v.isLiteral = true → v.kind = .ip
  initial := Slot.isLiteral_initial
  written _ _ := rfl
  status _ := rfl
  copied hv _ := hv
  assigned hv set := (Value.isLiteral_of_assign set).trans hv
  unset k literal := by rw [Value.isLiteral_unset] at literal; cases literal
  kept held _ := Variable.kind_of_taken held

namespace Context

variable {env : Environment} {c : Context} {name : String} {v : Value}

theorem getVariable_local (hn : isLocal name = true) (h : c.getVariable env name = .ok v) :
    c.locals.get? name = some v := by
  unfold getVariable at h
  rw [Variable.ofName?_local hn] at h
  obtain ⟨o, ho, h⟩ := bind_eq_ok h
  cases ho
  split at h
  · cases h
    assumption
  · cases h

theorem Stored.literal {d : Declarations} (stored : c.Stored (.unmarked d))
    (h : c.getVariable env name = .ok v) (literal : v.isLiteral = true) :
    isLocal name = true ∧ c.locals.get? name = some v ∧ v.kind = .ip := by
  obtain ⟨x, known, shows⟩ := getVariable_shows h
  cases shows with
  | slot s => cases literal.symm.trans (stored.slot s)
  | «local» n found =>
    obtain ⟨isLocal, rfl⟩ := Variable.isLocal_of_ofName? known
    exact ⟨isLocal, found, stored.locals _ v found literal⟩
  | backend => cases literal
  | plain _ plain => cases literal.symm.trans (Value.isLiteral_of_isPlain plain)

end Context

namespace Control

variable {env : Environment} {a b : State} {past : List Statement} {name : String} {v : Value}
    {T : Kind}

theorem Since.kind_of_literal (since : Since env a past b) (fresh : a.2.context.locals = .empty)
    (found : b.2.context.locals.get? name = some v) : v.isLiteral = true → v.kind = .ip := by
  have unset (k : Kind) (literal : (Value.unset k).isLiteral = true) :
      (Value.unset k).kind = .ip := by
    rw [Value.isLiteral_unset] at literal
    cases literal
  induction since generalizing v with
  | start =>
    rw [fresh] at found
    cases found
  | close _ ih => exact ih found
  | @deal past n whole s rest around outer m m' d _ ran ih =>
    have alters : (Run.deal env n s).Alters name (s.change? name) := Run.deal_alters n s name
    have makes := alters (m.note (.statement s))
    rw [ran] at makes
    generalize s.change? name = change at makes
    simp only [Machine.locals, found] at makes
    generalize before : (m.note (.statement s)).context.locals.get? name = old at makes
    cases makes with
    | kept => exact ih before
    | declared => exact unset _
    | assigned set => exact Variable.kind_of_taken (ih before) set
    | cleared => exact unset _
  | @fail past n whole s rest around outer m m' f _ ran ih =>
    have alters : (Run.deal env n s).Alters name (s.change? name) := Run.deal_alters n s name
    have altered := alters (m.note (.statement s))
    rw [ran] at altered
    have same : m'.context.locals = m.context.locals := altered
    rw [same] at found
    exact ih found

theorem Visited.isLiteral {m : Machine} (visited : Visited env past m) (zero : T.hasZero = true)
    (declaration : declaredKind? name past = some T) (found : m.context.locals.get? name = some v) :
    v.isLiteral = false := by
  obtain ⟨body, begun, control, fresh, since⟩ := visited
  obtain ⟨w, hw, held⟩ := since.held declaration
  cases found.symm.trans hw
  by_contra literal
  have address := since.kind_of_literal fresh found (by simpa using literal)
  -- an address is of no type with a zero
  rw [held.typed zero] at address
  rw [address] at zero
  cases zero

def addressBody (T : Kind) : List Statement := [
  .declare .unknown "var.x" T,
  .set .unknown "var.x" .assign (.ip .unknown "192.0.2.1")]

def addressing : SubroutineDeclaration := ⟨.unknown, "vcl_recv", none, addressBody .ip⟩

def addressed : Program := ⟨[.subroutine addressing]⟩

def addressedIn : Environment :=
  .of { Declarations.empty with subroutines := [addressing] } .standard

def addressedStart : Machine := .start (.start addressedIn .empty .loopback 0 (.ofSeed 0))

def documentation : Value := .ip (.v4 (.ofNat 32 0xC0000201)) true

theorem address_visited {T : Kind} (zeroless : T.hasZero = false) :
    ∃ m, Visited addressedIn (addressBody T).reverse m ∧
    m.context.getVariable addressedIn "var.x" = .ok documentation := by
  have declared :
      Since addressedIn (start (addressBody T) addressedStart) [.declare .unknown "var.x" T] _ :=
    .deal (n := 5) .start rfl
  cases T with
  | ip | acl | backend | table | ident | null =>
    exact ⟨_, ⟨_, addressedStart, _, rfl, .deal (n := 5) declared rfl⟩, rfl⟩
  | _ => cases zeroless

/-- A variable reads as a literal only if it is a local that holds an address. It never does if its
type has a zero, and it may if its type has none. -/
theorem literal_read_iff (p : Program) (env : Environment) (origin : Origin) (T : Kind) :
    (∀ r client port g,
      Reached p env origin (Lifecycle.process env origin (.start (.start env r client port g))).2) ∧
    (∀ m name v, Reached p env origin m → m.context.getVariable env name = .ok v →
      v.isLiteral = true →
      isLocal name = true ∧ m.context.locals.get? name = some v ∧ v.kind = .ip) ∧
    ((∀ env past m name v, Visited env past m → declaredKind? name past = some T →
      isLocal name = true →
        m.context.getVariable env name = .ok v → v.isLiteral = false) ↔
      T.hasZero = true) := by
  refine ⟨Reached.process p env origin, fun m name v reached found => ?_, fun computed => ?_, ?_⟩
  · have stored : m.Stored (.unmarked env.declarations) := reached.stored fun _ _ => trivial
    exact stored.context.literal found
  · by_contra zeroless
    obtain ⟨m, visited, found⟩ := address_visited (Bool.eq_false_iff.mpr zeroless)
    cases computed addressedIn _ m "var.x" _ visited rfl rfl found
  · intro zero env past m name v visited declaration isLocal found
    exact visited.isLiteral zero declaration (Context.getVariable_local isLocal found)

theorem literal_read_string :
    ∃ m v, Visited addressedIn (addressBody .string).reverse m ∧
      m.context.getVariable addressedIn "var.x" = .ok v ∧ v.text = "192.0.2.1" ∧
      v.isLiteral = false := by
  obtain ⟨-, -, computed⟩ := literal_read_iff addressed addressedIn .empty .string
  have declared : Since addressedIn (start (addressBody .string) addressedStart)
      [.declare .unknown "var.x" .string] _ := .deal (n := 5) .start rfl
  have visited : Visited addressedIn (addressBody .string).reverse _ :=
    ⟨_, addressedStart, _, rfl, .deal (n := 5) declared rfl⟩
  exact ⟨_, _, visited, rfl, rfl, computed.mpr rfl addressedIn _ _ "var.x" _ visited rfl rfl rfl⟩

/-- An address that was given as a literal reads as one. -/
theorem literal_in_address_local :
    ∃ m v, Reached addressed addressedIn .empty m ∧
      m.context.getVariable addressedIn "var.x" = .ok v ∧ v.isLiteral = true := by
  have reached :
      Reached addressed addressedIn .empty
        (Run.subroutine addressedIn "vcl_recv" .recv addressedStart).2 :=
    .step (.start ..) (.subroutine _ .recv)
  exact ⟨_, documentation, reached, rfl, rfl⟩

end Control

end EdgeCache
