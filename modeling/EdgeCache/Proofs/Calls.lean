import EdgeCache.Proofs.Labels
import Mathlib.Algebra.Order.BigOperators.Group.List
import Mathlib.Algebra.Order.Ring.Nat
import Mathlib.Data.List.Perm.Subperm
import Mathlib.Logic.Relation

/-! What a run of a program can go through: how large its parts are, which subroutines call which,
and where the jumps in them lead. -/

namespace EdgeCache

def ElseIf.condition : ElseIf → Expression
  | mk c _ => c

namespace Expression

def parts : Expression → List Expression
  | prefixed _ _ e | group _ e => [e]
  | binary _ l _ r => [l, r]
  | conditional _ c a b => [c, a, b]
  | call _ _ es => es
  | _ => []

mutual

def size : Expression → Nat
  | prefixed _ _ e | group _ e => e.size + 1
  | binary _ l _ r => l.size + r.size + 1
  | conditional _ c a b => c.size + a.size + b.size + 1
  | call _ _ es => sizes es + 1
  | _ => 1

def sizes : List Expression → Nat
  | [] => 0
  | e :: es => e.size + sizes es

end

theorem size_le_sizes {x : Expression} {es : List Expression} (h : x ∈ es) : x.size ≤ sizes es := by
  induction h with
  | head es => exact Nat.le_add_right _ _
  | tail e _ ih => exact Nat.le_trans ih (Nat.le_add_left _ _)

inductive Invokes (name : String) : Expression → Prop
  | here (t : Token) (es : List Expression) : Invokes name (.call t name es)
  | part {e x : Expression} (part : x ∈ e.parts) (inner : Invokes name x) : Invokes name e

end Expression

namespace Statement

def values : Statement → List Expression
  | set _ _ _ e | add _ _ e | switch _ e _ _ | log _ e | synthetic _ e _ => [e]
  | branch _ c _ others _ => c :: others.map ElseIf.condition
  | ret _ e => e.toList
  | error _ code response => code.toList ++ response.toList
  | apply _ _ es => es
  | _ => []

mutual

def size : Statement → Nat
  | block _ b => sizes b + 1
  | set _ _ _ e | add _ _ e | log _ e | synthetic _ e _ => e.size + 1
  | branch _ c a others last => c.size + sizes a + elseIfSizes others + lastSize last + 1
  | switch _ e cases _ => e.size + caseSizes cases + 1
  | ret _ e => Expression.sizes e.toList + 1
  | error _ code response => Expression.sizes code.toList + Expression.sizes response.toList + 1
  | apply _ _ es => Expression.sizes es + 1
  | _ => 1

def sizes : List Statement → Nat
  | [] => 0
  | s :: ss => s.size + sizes ss

def elseIfSizes : List ElseIf → Nat
  | [] => 0
  | .mk c b :: others => c.size + sizes b + elseIfSizes others

def caseSizes : List Case → Nat
  | [] => 0
  | .mk _ _ b _ :: cases => sizes b + caseSizes cases

def lastSize : Option (List Statement) → Nat
  | some b => sizes b
  | none => 0

end

theorem size_le_sizes {s : Statement} {b : List Statement} (h : s ∈ b) : s.size ≤ sizes b := by
  induction h with
  | head b => exact Nat.le_add_right _ _
  | tail t _ ih => exact Nat.le_trans ih (Nat.le_add_left _ _)

theorem elseIf_size {o : ElseIf} {others : List ElseIf} (h : o ∈ others) :
    o.condition.size + sizes o.body ≤ elseIfSizes others := by
  induction h with
  | head others =>
    cases o
    exact Nat.le_add_right _ _
  | tail o' _ ih =>
    cases o'
    exact Nat.le_trans ih (Nat.le_add_left _ _)

theorem case_size {c : Case} {cases : List Case} (h : c ∈ cases) :
    sizes c.body ≤ caseSizes cases := by
  induction h with
  | head cases =>
    cases c
    exact Nat.le_add_right _ _
  | tail c' _ ih =>
    cases c'
    exact Nat.le_trans ih (Nat.le_add_left _ _)

theorem size_list {s : Statement} {b : List Statement} (h : b ∈ s.lists) : sizes b < s.size := by
  cases s with
  | block t b' =>
    cases List.mem_singleton.mp h
    exact Nat.lt_succ_self _
  | branch t c a others last =>
    simp only [size]
    rcases List.mem_cons.mp h with rfl | h
    · omega
    · rcases List.mem_append.mp h with h | h
      · obtain ⟨o, ho, rfl⟩ := List.mem_map.mp h
        have le := elseIf_size ho
        omega
      · cases Option.mem_toList.mp h
        simp only [lastSize]
        omega
  | switch t e cases default =>
    obtain ⟨c, hc, rfl⟩ := List.mem_map.mp h
    have le := case_size hc
    simp only [size]
    omega
  | _ => cases h

inductive Callee where
  | plain (name : String)
  | functional (name : String)
  deriving DecidableEq

inductive Calls (c : Callee) : Statement → Prop
  | plain {t : Token} {name : String} (called : c = .plain name) : Calls c (.call t name)
  | functional {s : Statement} {e : Expression} {name : String} (value : e ∈ s.values)
    (invokes : e.Invokes name)
    (called : c = .functional name) : Calls c s
  | inner {s s' : Statement} {b : List Statement} (list : b ∈ s.lists) (stands : s' ∈ b)
    (calls : Calls c s') :
    Calls c s

inductive Encloses (body : List Statement) : List Statement → Prop
  | body : Encloses body body
  | inner {b b' : List Statement} {s : Statement} (outer : Encloses body b) (stands : s ∈ b)
    (list : b' ∈ s.lists) :
    Encloses body b'

theorem Encloses.calls {body b : List Statement} (h : Encloses body b) {c : Callee} {s : Statement}
    (hs : s ∈ b) (calls : s.Calls c) : ∃ t ∈ body, t.Calls c := by
  induction h generalizing s with
  | body => exact ⟨s, hs, calls⟩
  | inner outer stands list ih => exact ih stands (.inner list hs calls)

end Statement

namespace Declarations

def callee? (d : Declarations) : Statement.Callee → Option SubroutineDeclaration
  | .plain name => d.subroutine? name
  | .functional name => d.functional? name

def Calls (d : Declarations) (s s' : SubroutineDeclaration) : Prop :=
  ∃ c, (∃ t ∈ s.body, t.Calls c) ∧ d.callee? c = some s'

variable {d : Declarations} {s s' : SubroutineDeclaration}

end Declarations

def Declaration.bodySize : Declaration → Nat
  | .subroutine s => Statement.sizes s.body
  | _ => 0

namespace Program

def bodySize (p : Program) : Nat := (p.declarations.map Declaration.bodySize).sum

/-- How deep the runs of a program may have to go: once through every body that calls another
one. -/
def fuel (p : Program) : Nat := p.declarations.length * (p.bodySize + 1)

end Program

end EdgeCache
