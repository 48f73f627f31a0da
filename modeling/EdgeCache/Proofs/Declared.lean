import EdgeCache.Proofs.Locals

/-! What locals hold. The statements that took effect in a body, in their order, tell which type a
local was declared with and whether it was assigned, and from these follows what it may hold. A type
without a zero is forgotten. -/

namespace EdgeCache

def Change.kind? : Change → Option Kind
  | .declared k => some k
  | _ => none

namespace Statement

variable {name : String} {s : Statement} {past : List Statement}

def changes (name : String) (past : List Statement) : List Change := past.filterMap (change? name)

def declaredKind? (name : String) (past : List Statement) : Option Kind :=
  (changes name past).findSome? Change.kind?

def isAssigned (name : String) (past : List Statement) : Bool :=
  (changes name past).head? == some .assigned

theorem changes_of_none (h : s.change? name = none) :
    changes name (s :: past) = changes name past :=
  List.filterMap_cons_none h

theorem changes_of_some {c : Change} (h : s.change? name = some c) :
    changes name (s :: past) = c :: changes name past :=
  List.filterMap_cons_some h

end Statement

open Statement (declaredKind? isAssigned changes_of_none changes_of_some)

/-- What a local of a type may hold, once it was assigned or before. -/
structure Held (T : Kind) (assigned : Bool) (v : Value) : Prop where
  typed : T.hasZero = true → v.kind = T
  unset : T.hasZero = false → assigned = false → v = .null
  taken : T.hasZero = false → assigned = true → v.kind = .ip ∨ v.kind = .backend

namespace Held

variable {T : Kind} {assigned : Bool} {old v w : Value} {op : AssignOp}

theorem declared (T : Kind) : Held T false (.unset T) := by
  refine ⟨fun zero => ?_, fun zeroless _ => ?_, nofun⟩
  · rw [Value.kind_unset, if_pos zero]
  · cases T <;> first | rfl | cases zeroless

theorem cleared (h : Held T assigned old) : Held T false (.unset old.kind) := by
  refine ⟨fun zero => ?_, fun zeroless _ => ?_, nofun⟩
  · rw [h.typed zero, Value.kind_unset, if_pos zero]
  · cases assigned with
    | false => rw [h.unset zeroless rfl]; rfl
    | true => rcases h.taken zeroless rfl with hk | hk <;> rw [hk] <;> rfl

theorem kind_of_assign_null (h : Variable.assignLocal .null op v = .ok w) :
    w.kind = .ip ∨ w.kind = .backend := by
  unfold Variable.assignLocal at h
  split at h
  · split at h <;> cases h
    · exact .inl rfl
    · exact .inr rfl
  · cases h

theorem kind_of_assignLocal (ho : old ≠ .null) (h : Variable.assignLocal old op v = .ok w) :
    w.kind = old.kind := by
  unfold Variable.assignLocal at h
  split at h
  · exact absurd rfl ho
  · exact Value.kind_of_assign h

theorem assign (held : Held T assigned old) (h : Variable.assignLocal old op v = .ok w) :
    Held T true w := by
  refine ⟨fun zero => ?_, nofun, fun zeroless _ => ?_⟩
  · -- nothing is of no type with a zero
    have kind := held.typed zero
    rw [kind_of_assignLocal (fun null => ?_) h, kind]
    subst null
    cases kind
    cases zero
  · cases assigned with
    | false =>
      rw [held.unset zeroless rfl] at h
      exact kind_of_assign_null h
    | true =>
      -- what the local took first fixes its type until it is unset
      have kind := held.taken zeroless rfl
      rwa [kind_of_assignLocal (fun null => ?_) h]
      subst null
      rcases kind with hk | hk <;> cases hk

variable {name : String} {s : Statement} {past : List Statement} {o o' : Option Value}

theorem after (makes : Change.Makes (s.change? name) o o')
    (before : declaredKind? name past = some T → ∃ v, o = some v ∧ Held T (isAssigned name past) v)
    (declaration : declaredKind? name (s :: past) = some T) :
    ∃ v, o' = some v ∧ Held T (isAssigned name (s :: past)) v := by
  unfold declaredKind? at declaration before
  unfold isAssigned at before ⊢
  generalize hc : s.change? name = change at makes
  cases makes with
  | kept =>
    rw [changes_of_none hc] at declaration ⊢
    exact before declaration
  | @declared k o =>
    rw [changes_of_some hc] at declaration ⊢
    cases declaration
    exact ⟨_, rfl, .declared _⟩
  | assigned set =>
    rw [changes_of_some hc] at declaration ⊢
    obtain ⟨v, hv, held⟩ := before declaration
    cases hv
    exact ⟨_, rfl, held.assign set⟩
  | cleared =>
    rw [changes_of_some hc] at declaration ⊢
    obtain ⟨v, hv, held⟩ := before declaration
    cases hv
    exact ⟨_, rfl, held.cleared⟩

end Held

namespace Control

/-- The statements that took effect between two states, the latest first. -/
inductive Since (env : Environment) (a : State) : List Statement → State → Prop
  | start : Since env a [] a
  | close {past : List Statement} {whole : List Statement} {around : Around} {outer : List Layer}
    {m : Machine}
    (before : Since env a past (running (⟨whole, [], around⟩ :: outer), m)) :
    Since env a past (close outer around, m)
  | deal {past : List Statement} {n : Nat} {whole : List Statement} {s : Statement}
    {rest : List Statement}
    {around : Around} {outer : List Layer} {m m' : Machine} {d : Deal}
    (before : Since env a past (running (⟨whole, s :: rest, around⟩ :: outer), m))
    (ran : Run.deal env n s (m.note (.statement s)) = (.done d, m')) :
    Since env a (s :: past) (ofDeal d (⟨whole, rest, around⟩ :: outer), m')
  | fail {past : List Statement} {n : Nat} {whole : List Statement} {s : Statement}
    {rest : List Statement}
    {around : Around} {outer : List Layer} {m m' : Machine} {f : Failure}
    (before : Since env a past (running (⟨whole, s :: rest, around⟩ :: outer), m))
    (ran : Run.deal env n s (m.note (.statement s)) = (.failed f, m')) :
    Since env a past (failed s f, m')

variable {env : Environment} {a b : State} {past : List Statement} {name : String} {T : Kind}

theorem path_iff_since : Path env a b ↔ ∃ past, Since env a past b := by
  constructor
  · intro path
    induction path with
    | refl => exact ⟨[], .start⟩
    | tail _ step ih =>
      obtain ⟨past, before⟩ := ih
      cases step with
      | close => exact ⟨past, .close before⟩
      | deal ran => exact ⟨_, .deal before ran⟩
      | fail ran => exact ⟨past, .fail before ran⟩
  · rintro ⟨past, since⟩
    induction since with
    | start => exact .refl
    | close _ ih => exact ih.tail .close
    | deal _ ran ih => exact ih.tail (.deal ran)
    | fail _ ran ih => exact ih.tail (.fail ran)

theorem Since.held (since : Since env a past b) (declaration : declaredKind? name past = some T) :
    ∃ v, b.2.context.locals.get? name = some v ∧ Held T (isAssigned name past) v := by
  induction since with
  | start => cases declaration
  | close _ ih => exact ih declaration
  | @deal past n whole s rest around outer m m' d _ ran ih =>
    have alters : (Run.deal env n s).Alters name (s.change? name) := Run.deal_alters n s name
    have altered := alters (m.note (.statement s))
    rw [ran] at altered
    exact Held.after altered ih declaration
  | @fail past n whole s rest around outer m m' f _ ran ih =>
    have alters : (Run.deal env n s).Alters name (s.change? name) := Run.deal_alters n s name
    have altered := alters (m.note (.statement s))
    rw [ran] at altered
    have same : m'.context.locals = m.context.locals := altered
    rw [same]
    exact ih declaration

/-- A body that began without locals has come so far, after these statements. -/
def Visited (env : Environment) (past : List Statement) (m : Machine) : Prop :=
  ∃ body begun control, begun.context.locals = .empty ∧
    Since env (start body begun) past (control, m)

def foreignBody (T : Kind) : List Statement := [
  .declare .unknown "var.x" T,
  .set .unknown "var.x" .assign (.ident .unknown (if T = .ip then "origin" else "client.ip"))]

def foreignBackend : Backend := ⟨"origin", .origin ⟨.unknown, "origin", []⟩⟩

def foreignIn : Environment :=
  .of { Declarations.empty with backends := [foreignBackend] } .standard

def foreignStart : Machine := .start (.start foreignIn .empty .loopback 0 (.ofSeed 0))

def foreignValue (T : Kind) : Value := if T = .ip then .backend foreignBackend else .ofIp .loopback

theorem foreign_visited {T : Kind} (zeroless : T.hasZero = false) :
    ∃ m, Visited foreignIn (foreignBody T).reverse m ∧
    m.context.locals.get? "var.x" = some (foreignValue T) := by
  have declared :
      Since foreignIn (start (foreignBody T) foreignStart) [.declare .unknown "var.x" T] _ :=
    .deal (n := 5) .start rfl
  cases T with
  | ip | acl | backend | table | ident | null =>
    exact ⟨_, ⟨_, foreignStart, _, rfl, .deal (n := 5) declared rfl⟩, rfl⟩
  | _ => cases zeroless

theorem kind_foreignValue {T : Kind} (zeroless : T.hasZero = false) :
    (foreignValue T).kind ≠ T ∧ foreignValue T ≠ .null := by
  cases T with
  | ip | acl | backend | table | ident | null => exact ⟨by decide, nofun⟩
  | _ => cases zeroless

/-- Wherever a body that begins without locals has come, a local of a type with a zero holds a value
of its type. One of any other type holds nothing until it is assigned, and then an address or a
backend, whatever its type. -/
theorem declared_kept_iff (T : Kind) :
    (∀ env body begun control m, begun.context.locals = .empty →
      Path env (start body begun) (control, m) → ∃ past, Visited env past m) ∧
    (∀ env past m name, Visited env past m → declaredKind? name past = some T →
      ∃ v, m.context.locals.get? name = some v ∧ Held T (isAssigned name past) v) ∧
    ((∀ env past m name v, Visited env past m → declaredKind? name past = some T →
        m.context.locals.get? name = some v →
          v.kind = T ∨ v = .null ∧ T.hasZero = false ∧ isAssigned name past = false) ↔
      T.hasZero = true) := by
  have holds {env : Environment} {past : List Statement} {m : Machine} {name : String}
      (visited : Visited env past m)
      (declaration : declaredKind? name past = some T) :
      ∃ v, m.context.locals.get? name = some v ∧ Held T (isAssigned name past) v := by
    obtain ⟨body, begun, control, fresh, since⟩ := visited
    exact since.held declaration
  refine ⟨fun env body begun control m fresh path => ?_, fun _ _ _ _ => holds, fun kept => ?_, ?_⟩
  · obtain ⟨past, since⟩ := path_iff_since.mp path
    exact ⟨past, body, begun, control, fresh, since⟩
  · by_contra zeroless
    have zeroless : T.hasZero = false := Bool.eq_false_iff.mpr zeroless
    obtain ⟨m, visited, found⟩ := foreign_visited zeroless
    obtain ⟨other, some⟩ := kind_foreignValue zeroless
    rcases kept foreignIn _ m "var.x" _ visited rfl found with same | ⟨null, -⟩
    · exact other same
    · exact some null
  · intro zero env past m name v visited declaration found
    obtain ⟨w, hw, held⟩ := holds visited declaration
    cases found.symm.trans hw
    exact .inl (held.typed zero)

theorem declared_kept_string :
    ∃ past m, Visited foreignIn past m ∧ declaredKind? "var.x" past = some .string ∧
      ∃ v, m.context.locals.get? "var.x" = some v ∧ v.kind = .string := by
  obtain ⟨-, holds, -⟩ := declared_kept_iff .string
  have declared : Since foreignIn (start (foreignBody .string) foreignStart)
      [.declare .unknown "var.x" .string] _ :=
    .deal (n := 5) .start rfl
  have visited : Visited foreignIn (foreignBody .string).reverse _ :=
    ⟨_, foreignStart, _, rfl, .deal (n := 5) declared rfl⟩
  obtain ⟨v, found, held⟩ := holds foreignIn _ _ "var.x" visited rfl
  exact ⟨_, _, visited, rfl, v, found, held.typed rfl⟩

/-- A local that was declared for an address holds a backend. -/
theorem backend_in_ip_local :
    ∃ m v, Visited foreignIn (foreignBody .ip).reverse m ∧
      declaredKind? "var.x" (foreignBody .ip).reverse = some .ip ∧
      m.context.locals.get? "var.x" = some v ∧ v.kind = .backend := by
  obtain ⟨m, visited, found⟩ := foreign_visited (T := .ip) rfl
  exact ⟨m, _, visited, rfl, found, rfl⟩

end Control

end EdgeCache
