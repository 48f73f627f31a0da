import EdgeCache.Proofs.Sites
import Mathlib.Data.List.DropRight

/-! The marks of a pass and the site of a request. The sites that a pass has come by are those whose
marks it has left, so what a history says of the past of a pass is what holds at the site. -/

namespace EdgeCache

namespace Mark

def isAgain : Mark → Bool
  | .again => true
  | _ => false

/-- The place in the order of a pass at which the lifecycle leaves a mark. -/
def rank? : Mark → Option Nat
  | .event (.stage s _) => some (Lifecycle.Site.visit s).rank
  | .event (.fetch b ..) => some (Lifecycle.Site.ask b).rank
  | _ => none

theorem IsInner.isAgain {k : Mark} (h : k.IsInner) : k.isAgain = false := by
  cases k <;> first | rfl | cases h

theorem IsInner.rank? {k : Mark} (h : k.IsInner) : k.rank? = none := by
  cases k <;> first | rfl | cases h

end Mark

def lastPass (history : List Mark) : List Mark := history.rtakeWhile fun k => !k.isAgain

def firstPass (history : List Mark) : List Mark := history.takeWhile fun k => !k.isAgain

theorem lastPass_append {marks : List Mark} (h : ∀ k ∈ marks, k.isAgain = false)
    (history : List Mark) :
    lastPass (history ++ marks) = lastPass history ++ marks := by
  have kept : ∀ k ∈ marks.reverse, (!k.isAgain) = true := fun k hk => by
    rw [h k (List.mem_reverse.mp hk)]
    rfl
  unfold lastPass List.rtakeWhile
  rw [List.reverse_append, List.takeWhile_append_of_pos kept, List.reverse_append,
    List.reverse_reverse]

theorem lastPass_again (history : List Mark) : lastPass (history ++ [.again]) = [] := by
  unfold lastPass
  rw [List.rtakeWhile_concat]
  rfl

theorem firstPass_append {marks : List Mark} (h : ∀ k ∈ marks, k.isAgain = false)
    (history : List Mark) :
    firstPass (marks ++ history) = marks ++ firstPass history :=
  List.takeWhile_append_of_pos fun k hk => by
    rw [h k hk]
    rfl

namespace Lifecycle

open Relation (ReflTransGen)

variable {env : Environment} {origin : Origin}

theorem mark?_rank {s : Site} {m : Machine} {k : Mark} (h : s.mark? m = some k) (hs : s ≠ .again) :
    k.rank? = some s.rank ∧ k.isAgain = false := by
  cases s with
  | visit s => cases h; exact ⟨rfl, rfl⟩
  | ask b => cases h; exact ⟨rfl, rfl⟩
  | again => exact absurd rfl hs
  | _ => cases h

theorem Marked.within {a : Point} {n : Machine} (h : Marked a n) (ha : a.1 ≠ .again) : ∃ marks,
    n.history = a.2.history ++ marks ∧ (∀ k ∈ marks, k.isAgain = false) ∧
      (∀ k ∈ marks, ∀ r, k.rank? = some r → r = a.1.rank) ∧ ∀ k, a.1.mark? a.2 = some k →
      k ∈ marks := by
  obtain ⟨inner, hn, hi⟩ := h
  refine ⟨_, hn, fun k hk => ?_, fun k hk r hr => ?_, fun k hk => ?_⟩
  · rcases List.mem_append.mp hk with here | later
    · exact (mark?_rank (Option.mem_toList.mp here) ha).2
    · exact (hi k later).isAgain
  · rcases List.mem_append.mp hk with here | later
    · rw [(mark?_rank (Option.mem_toList.mp here) ha).1] at hr
      exact (Option.some.inj hr).symm
    · rw [(hi k later).rank?] at hr
      cases hr
  · exact List.mem_append_left _ (Option.mem_toList.mpr hk)

theorem Site.rank_lt_entry {s : Site} {scope : Scope} {f : Context → Context}
    (h : s.entry? = some (scope, f)) :
    s.rank < (visit scope).rank := by
  rcases s with _ | _ | _ | (_ | _) | _ | _ | _ | (_ | _) | _ | _ | _ <;> cases h <;> decide

theorem Goes.rank_lt {a b : Point} (h : Goes env origin a b) (again : a.1 ≠ .again)
    (finished : a.1 ≠ .finished) : a.1.rank < b.1.rank := by
  cases h.went with
  | enter m ready => exact Site.rank_lt_entry ready
  | visit ran => exact Site.rank_lt_rank_after _ _
  | fail => exact (by decide : 8 < 11)
  | pick => exact (by decide : 8 < 9)
  | ask => exact (by decide : 9 < 10)
  | again => exact absurd rfl again
  | finished => exact absurd rfl finished

theorem goes_again {m : Machine} {b : Point} (h : Goes env origin (.again, m) b) :
    b.1 = .recv ∧ b.2.history = m.history ++ [.again] := by
  cases h.went with
  | enter m ready => cases ready
  | again => exact ⟨rfl, m.history_note .again⟩

def Past (a : Point) : Prop := ∀ k ∈ lastPass a.2.history, ∀ r, k.rank? = some r → r < a.1.rank

theorem Goes.past {a b : Point} (h : Goes env origin a b) (ha : Past a) : Past b := by
  obtain ⟨s, m⟩ := a
  -- a new pass has left nothing yet, and a finished request stays where it is
  by_cases again : s = .again
  · subst again
    intro k hk
    rw [(goes_again h).2, lastPass_again] at hk
    cases hk
  by_cases finished : s = .finished
  · subst finished
    rwa [ways_finished (.single h)]
  obtain ⟨marks, hn, inPass, ranked, -⟩ := h.marked.within again
  have upwards := h.rank_lt again finished
  intro k hk r hr
  rw [hn, lastPass_append inPass] at hk
  rcases List.mem_append.mp hk with before | here
  · exact (ha k before r hr).trans upwards
  · rwa [ranked k here r hr]

def Seen (a : Point) : Prop :=
  match a.1 with
  | .pass true => ∃ n, Mark.event (.stage .miss n) ∈ lastPass a.2.history
  | .fetch | .ask _ =>
    ∃ s n, (s = .miss ∨ s = .pass) ∧ Mark.event (.stage s n) ∈ lastPass a.2.history
  | .deliver true => ∃ n, Mark.event (.stage .error n) ∈ lastPass a.2.history
  | _ => True

theorem seen_after {s : Scope} {e : Ending} {n : Nat} {m : Machine}
    (h : Mark.event (.stage s n) ∈ lastPass m.history) : Seen (.after s e, m) := by
  cases s <;> rcases e with (_ | _ | _ | _ | _ | _ | _) | _ | _ <;>
    first
      | trivial
      | exact ⟨n, h⟩
      | exact ⟨.miss, n, .inl rfl, h⟩
      | exact ⟨.pass, n, .inr rfl, h⟩

theorem Goes.seen {a b : Point} (h : Goes env origin a b) (ha : Seen a) : Seen b := by
  cases h.went with
  | visit ran =>
    rename_i s e m n
    obtain ⟨marks, hn, inPass, -, left⟩ := h.marked.within nofun
    refine seen_after (n := m.context.restarts) ?_
    rw [hn, lastPass_append inPass]
    exact List.mem_append_right _ (left _ rfl)
  | pick => exact ha
  | _ => trivial

theorem ways_keep {p : Point → Prop} {a b : Point} (h : Ways env origin a b)
    (keep : ∀ {a b}, Goes env origin a b → p a → p b) (ha : p a) : p b := by
  induction h with
  | refl => exact ha
  | tail _ step ih => exact keep step ih

abbrev begins (env : Environment) (r : Request) (client : Address) (port : Nat) (g : Generator) :
    Point :=
  (.recv, .start (.start env r client port g))

section Beginning

variable {r : Request} {client : Address} {port : Nat} {g : Generator} {a : Point}

theorem past_of_ways (h : Ways env origin (begins env r client port g) a) : Past a :=
  ways_keep h (fun step => step.past) nofun

theorem seen_of_ways (h : Ways env origin (begins env r client port g) a) : Seen a :=
  ways_keep h (fun step => step.seen) trivial

end Beginning

/-- The machine with which the handling of a request ends, before another pass or on the way to the
next site. -/
def Ends (a : Point) (n : Machine) : Prop :=
  a.1 = .again ∧ n.history = a.2.history ∨ a.1 ≠ .again ∧ Marked a n

theorem ends_of_advance {a : Point} {r : Outcome Site} {n : Machine}
    (h : advance env origin a.1 a.2 = (r, n)) (hr : ∀ s, r ≠ .done s) : Ends a n := by
  obtain ⟨s, m⟩ := a
  by_cases again : s = .again
  · subst again
    have went : (if m.context.restarts < env.config.maxRestarts then
        (Outcome.done Site.recv, startOver m)
      else (.failed (.of (.tooManyRestarts env.config.maxRestarts)), m)) = (r, n) := h
    split at went
    · exact absurd (Prod.mk.inj went).1.symm (hr .recv)
    · exact .inl ⟨rfl, congrArg Machine.history (Prod.mk.inj went).2.symm⟩
  · have marked := advance_marked env origin s m again
    rw [h] at marked
    exact .inr ⟨again, marked⟩

theorem leads_ends {a : Point} {r : Outcome Unit × Machine}
    (h : Leads env origin (fun _ => .finished) a r) :
    ∃ b, Ways env origin a b ∧ Ends b r.2 := by
  rcases r with ⟨t | f | _, n⟩
  · exact ⟨_, h, .inr ⟨nofun, .of_history (List.append_nil _).symm⟩⟩
  · obtain ⟨b, way, stop⟩ := h
    exact ⟨b, way, ends_of_advance stop nofun⟩
  · obtain ⟨b, way, stop⟩ := h
    exact ⟨b, way, ends_of_advance stop nofun⟩

theorem ways_ahead {a b : Point} {n : Machine} (h : Ways env origin a b) (ends : Ends b n) :
    ∃ later,
    n.history = a.2.history ++ later ∧ ∀ k ∈ firstPass later, ∀ r, k.rank? = some r →
    a.1.rank ≤ r := by
  induction h using ReflTransGen.head_induction_on with
  | refl =>
    rcases ends with ⟨-, hn⟩ | ⟨again, marked⟩
    · exact ⟨[], hn.trans (List.append_nil _).symm, nofun⟩
    · obtain ⟨marks, hn, inPass, ranked, -⟩ := marked.within again
      have onePass : firstPass marks = marks := by
        have := firstPass_append inPass []
        rwa [List.append_nil, show firstPass [] = [] from rfl, List.append_nil] at this
      rw [← onePass] at ranked
      exact ⟨marks, hn, fun k hk r hr => (ranked k hk r hr).ge⟩
  | head step _ ih =>
    rename_i a c _
    obtain ⟨later, hn, ahead⟩ := ih
    obtain ⟨s, m⟩ := a
    by_cases again : s = .again
    · -- what the next pass leaves is none of this one
      subst again
      refine ⟨.again :: later, ?_, nofun⟩
      rw [hn, (goes_again step).2, List.append_assoc]
      rfl
    by_cases finished : s = .finished
    · subst finished
      cases ways_finished (.single step)
      exact ⟨later, hn, ahead⟩
    obtain ⟨marks, hc, inPass, ranked, -⟩ := step.marked.within again
    have upwards := step.rank_lt again finished
    refine ⟨marks ++ later, by rw [hn, hc, List.append_assoc], fun k hk r hr => ?_⟩
    rw [firstPass_append inPass] at hk
    rcases List.mem_append.mp hk with here | afterwards
    · exact (ranked k here r hr).ge
    · exact upwards.le.trans (ahead k afterwards r hr)

theorem ways_mark {a b : Point} {n : Machine} {k : Mark} (h : Ways env origin a b) (ends : Ends b n)
    (again : a.1 ≠ .again) (mark : a.1.mark? a.2 = some k) :
    ∃ after, n.history = a.2.history ++ k :: after := by
  have first {p : Machine} (marked : Marked a p) :
      ∃ inner, p.history = a.2.history ++ k :: inner := by
    obtain ⟨inner, hp, -⟩ := marked
    rw [mark] at hp
    exact ⟨inner, hp⟩
  rcases h.cases_head with rfl | ⟨c, step, way⟩
  · rcases ends with ⟨here, -⟩ | ⟨-, marked⟩
    · exact absurd here again
    · exact first marked
  · obtain ⟨inner, hc⟩ := first step.marked
    obtain ⟨later, hn, -⟩ := ways_ahead way ends
    exact ⟨inner ++ later, by rw [hn, hc, List.append_assoc]; rfl⟩

theorem mark_of_left {mark : Option Mark} {inner rest after : List Mark} {k : Mark}
    (h : mark.toList ++ inner = rest ++ k :: after) (hi : ∀ k ∈ inner, k.IsInner)
    (hk : ¬ k.IsInner) :
    rest = [] ∧ mark = some k := by
  rcases mark with _ | k'
  · have left : inner = rest ++ k :: after := h
    exact absurd (hi k (left ▸ List.mem_append_right _ List.mem_cons_self)) hk
  · rcases rest with _ | ⟨k'', rest⟩
    · exact ⟨rfl, congrArg some (List.cons.inj h).1⟩
    · have left : inner = rest ++ k :: after := (List.cons.inj h).2
      exact absurd (hi k (left ▸ List.mem_append_right _ List.mem_cons_self)) hk

theorem Marked.mark {a : Point} {n : Machine} {k : Mark} {before after : List Mark} (h : Marked a n)
    (hn : n.history = before ++ k :: after) (hk : ¬ k.IsInner) :
    a.2.history = before ∧ a.1.mark? a.2 = some k ∨ ∃ rest, a.2.history = before ++ k :: rest := by
  obtain ⟨inner, hm, hi⟩ := h
  rcases List.append_eq_append_iff.mp (hn.symm.trans hm) with ⟨rest, ha, hr⟩ | ⟨rest, hb, hr⟩
  · rcases rest with _ | ⟨k', rest⟩
    · obtain ⟨-, mark⟩ := mark_of_left (show _ = [] ++ k :: after from hr.symm) hi hk
      exact .inl ⟨ha.trans (List.append_nil _), mark⟩
    · obtain ⟨rfl, -⟩ := List.cons.inj hr
      exact .inr ⟨rest, ha⟩
  · obtain ⟨rfl, mark⟩ := mark_of_left hr hi hk
    exact .inl ⟨(hb.trans (List.append_nil _)).symm, mark⟩

theorem point_of_mark {a b : Point} {k : Mark} {before after : List Mark} (h : Ways env origin a b)
    (hb : b.2.history = before ++ k :: after) (hk : ¬ k.IsInner) (ha : a.2.history = []) :
    ∃ c, Ways env origin a c ∧ c.2.history = before ∧ c.1.mark? c.2 = some k := by
  induction h generalizing after with
  | refl =>
    rw [ha] at hb
    cases (List.append_eq_nil_iff.mp hb.symm).2
  | tail way step ih =>
    rcases step.marked.mark hb hk with left | ⟨rest, hc⟩
    · exact ⟨_, way, left⟩
    · exact ih hc

theorem point_of_event {m : Machine} {e : Event} {before after : List Mark} (hm : m.history = [])
    (h : (process env origin m).2.history = before ++ .event e :: after) :
    ∃ c, Ways env origin (.recv, m) c ∧ c.2.history = before ∧ c.1.mark? c.2 = some (.event e) := by
  obtain ⟨b, way, ends⟩ := leads_ends (process_leads env origin m)
  rcases ends with ⟨-, same⟩ | ⟨-, marked⟩
  · exact point_of_mark way (same.symm.trans h) id hm
  · rcases marked.mark h id with left | ⟨rest, hb⟩
    · exact ⟨b, way, left⟩
    · exact point_of_mark way hb id hm

end Lifecycle

end EdgeCache
