import EdgeCache.Proofs.Library
import EdgeCache.Run.Subroutine

/-! The primitive acts of programs: what statements and expressions do by themselves, without what
they run and without ending the stage. -/

namespace EdgeCache

/-- What the parts of a program do to a machine besides running one another and ending the stage,
with values that have a property. -/
inductive Act (env : Environment) (P : Value → Prop) : Machine → Machine → Prop
  | begin (m : Machine) (s : Statement) : Act env P m (m.note (.statement s))
  | enter (m : Machine) (name : String) : Act env P m (m.enter name)
  | log (m : Machine) (text : String) : Act env P m (m.log text)
  | search (m : Machine) {l r : Value} {pattern subject : String} (right : P r)
      (sought : l.sought? r = some (pattern, subject)) :
      Act env P m (m.note (.search pattern subject))
  | captures (m : Machine) (k : Captures) :
    Act env P m { m with context := { m.context with captures := k } }
  | builtin {m : Machine} {name : String} {b : Builtin} {args : List Value} {v : Value}
    {c : Context}
      (resolved : Builtin.resolve env m.context name = .ok b)
      (called : b.call env m.context args = .ok (v, c)) : Act env P m { m with context := c }
  | declare (m : Machine) (name : String) (k : Kind) :
    Act env P m { m with context :=
      { m.context with locals := m.context.locals.put name (.unset k) } }
  | assign {m : Machine} {name : String} {op : AssignOp} {v : Value} {c : Context} (right : P v)
      (set : m.context.setVariable env name op v = .ok c) : Act env P m { m with context := c }
  | append {m : Machine} {name : String} {v : Value} {c : Context}
      (added : m.context.addVariable env name v = .ok c) : Act env P m { m with context := c }
  | remove {m : Machine} {name : String} {c : Context}
      (unset : m.context.unsetVariable env name = .ok c) : Act env P m { m with context := c }
  | esi (m : Machine) : Act env P m { m with context := { m.context with triggerEsi := true } }
  | synthesize (m : Machine) (text : String) (inError : m.context.scope = .error) :
    Act env P m { m with context :=
      { m.context with object := { m.context.object with body := text } } }

namespace Machine

theorem history_note (m : Machine) (k : Mark) : (m.note k).history = m.history ++ [k] :=
  List.reverse_cons

def Grows (p : Mark → Prop) (m n : Machine) : Prop :=
  ∃ marks, n.history = m.history ++ marks ∧ ∀ k ∈ marks, p k

namespace Grows

variable {p q : Mark → Prop} {l m n : Machine}

theorem refl (m : Machine) : Grows p m m := ⟨[], (List.append_nil _).symm, fun _ h => nomatch h⟩

theorem note {k : Mark} (h : p k) : Grows p m (m.note k) :=
  ⟨[k], history_note m k, fun _ hk => List.mem_singleton.mp hk ▸ h⟩

theorem trans (h : Grows p l m) (h' : Grows p m n) : Grows p l n := by
  obtain ⟨marks, hm, hp⟩ := h
  obtain ⟨marks', hn, hp'⟩ := h'
  refine ⟨marks ++ marks', by rw [hn, hm, List.append_assoc], fun k hk => ?_⟩
  exact (List.mem_append.mp hk).elim (hp k) (hp' k)

theorem mono (hq : ∀ k, p k → q k) (h : Grows p m n) : Grows q m n := by
  obtain ⟨marks, hm, hp⟩ := h
  exact ⟨marks, hm, fun k hk => hq k (hp k hk)⟩

end Grows

end Machine

namespace Act

open Context (Permitted)
open Machine (Grows)

variable {env : Environment} {P : Value → Prop} {m n : Machine}

theorem frames (h : Act env P m n) : n.frames = m.frames := by
  cases h <;> rfl

theorem grows {p : Mark → Prop} (hp : ∀ s, p (.statement s))
    (hs : ∀ pattern subject, p (.search pattern subject)) (h : Act env P m n) : Grows p m n := by
  cases h with
  | begin s => exact .note (hp s)
  | search => exact .note (hs ..)
  | _ => exact .refl _

theorem permitted_or_joins (h : Act env P m n) : Permitted m.context n.context ∨
    m.context.scope ≠ .unknown ∧ ∃ name headers, (m.context.headers name).Joins headers ∧
      n.context = m.context.setHeaders headers name := by
  cases h with
  | builtin resolved called =>
    obtain ⟨known, allowed⟩ := Builtin.of_resolve resolved
    rcases Builtin.call_effect known called with hb | hj
    · exact .inl (.of_messages hb.settled hb.message)
    · exact .inr ⟨Builtin.scope_ne_unknown allowed, hj⟩
  | assign _ set => exact .inl (Context.setVariable_permitted set)
  | append added => exact .inl (Context.addVariable_permitted added)
  | remove unset => exact .inl (Context.unsetVariable_permitted unset)
  | synthesize text inError =>
    refine .inl ⟨rfl, fun name hname => ?_⟩
    rw [inError] at hname
    cases name <;> first | rfl | exact absurd (by decide) hname
  | _ => exact .inl (.of_messages rfl (funext fun name => by cases name <;> rfl))

theorem settled (h : Act env P m n) : n.context.settled = m.context.settled := by
  rcases h.permitted_or_joins with hp | ⟨-, name, headers, -, hn⟩
  · exact hp.settled
  · rw [hn, Context.settled_setHeaders]

end Act

end EdgeCache
