import EdgeCache.Proofs.Control
import EdgeCache.Proofs.Labels

/-! The layers of control in a body are lists that stand in one another. Every step keeps them so: a
statement is run in the list in which it stands, and only lists that stand in it come over that
one. -/

namespace EdgeCache

def Around.later : Around → List Case
  | .plain => []
  | .case _ later => later

def Deal.StandsIn (s : Statement) : Deal → Prop
  | .opens b => b ∈ s.lists
  | .enters c later => c.body ∈ s.lists ∧ ∀ c' ∈ later, c'.body ∈ s.lists
  | .hands _ => True
namespace Run

section Lists

variable {env : Environment} {value : Evaluator} {m m' : Machine}

theorem choice_mem {others : List ElseIf} {last : Option (List Statement)} {b : List Statement}
    (h : choice value last others m = (.done (some b), m')) :
    b ∈ others.map ElseIf.body ++ last.toList := by
  induction others generalizing m with
  | nil =>
    obtain ⟨chosen, -⟩ := Prod.mk.inj h
    exact Option.mem_toList.mpr (Outcome.done.inj chosen)
  | cons other rest ih =>
    obtain ⟨c, b'⟩ := other
    obtain ⟨yes, n, -, h⟩ := bind_eq_done h
    cases yes
    · exact List.mem_cons_of_mem _ (ih h)
    · cases h
      exact List.mem_cons_self

theorem casesFrom_subset {subject : String} {cases cs : List Case}
    (h : casesFrom subject cases m = (.done (some cs), m')) : cs ⊆ cases := by
  induction cases generalizing m with
  | nil => cases h
  | cons c rest ih =>
    obtain ⟨hit, n, -, h⟩ := bind_eq_done h
    cases hit
    · exact List.subset_cons_of_subset _ (ih h)
    · cases h
      exact List.Subset.refl _

theorem chosen_subset {control : Expression} {cases cs : List Case} {default : Option Nat}
    (h : chosen value control cases default m = (.done cs, m')) : cs ⊆ cases := by
  obtain ⟨subject, n, -, h⟩ := bind_eq_done h
  obtain ⟨taken, p, hp, h⟩ := bind_eq_done h
  cases taken with
  | some cs' =>
    cases h
    exact casesFrom_subset hp
  | none =>
    cases default with
    | some i =>
      cases h
      exact List.drop_subset ..
    | none =>
      cases h
      exact List.nil_subset _

theorem deal_standsIn {n : Nat} {s : Statement} {d : Deal} (h : deal env n s m = (.done d, m')) :
    d.StandsIn s := by
  have simple (h : Run.bind (executeWith env (evaluate env n) (fun b => runFrom env n b b) s)
      (fun flow => pure (.hands flow)) m = (.done d, m')) : d.StandsIn s := by
    obtain ⟨flow, n, -, h⟩ := bind_eq_done h
    cases h
    trivial
  cases s with
  | block t b =>
    cases h
    exact List.mem_singleton.mpr rfl
  | branch t c a others last =>
    obtain ⟨b, n, hb, h⟩ := bind_eq_done (pinned_eq_done h)
    cases h
    cases b with
    | none => trivial
    | some b => exact choice_mem hb
  | switch t e cases default =>
    obtain ⟨cs, n, hcs, h⟩ := bind_eq_done (pinned_eq_done h)
    cases h
    cases cs with
    | nil => trivial
    | cons c later =>
      have subset := chosen_subset hcs
      exact ⟨List.mem_map_of_mem (subset List.mem_cons_self),
        fun c' hc => List.mem_map_of_mem (subset (List.mem_cons_of_mem _ hc))⟩
  | _ => exact simple h

end Lists
end Run

namespace Control

/-- The layers over a body: each list stands in a statement of the next layer, before what is left
of that one. -/
inductive Nested (body : List Statement) : List Layer → Prop
  | none : Nested body []
  | body {rest : List Statement} (left : rest <:+ body) : Nested body [⟨body, rest, .plain⟩]
  | within {s : Statement} {layer under : Layer} {outer : List Layer} (list : layer.whole ∈ s.lists)
    (later : ∀ c ∈ layer.around.later, c.body ∈ s.lists) (left : layer.rest <:+ layer.whole)
    (stands : s :: under.rest <:+ under.whole) (nested : Nested body (under :: outer)) :
    Nested body (layer :: under :: outer)

namespace Nested

variable {body : List Statement} {layer under : Layer} {outer : List Layer}

theorem left (h : Nested body (layer :: outer)) : layer.rest <:+ layer.whole := by
  cases h <;> assumption

theorem tail (h : Nested body (layer :: outer)) : Nested body outer := by
  cases h with
  | body => exact .none
  | within _ _ _ _ nested => exact nested

theorem resume {rest : List Statement} (h : Nested body (layer :: outer))
    (left : rest <:+ layer.whole) :
    Nested body ({ layer with rest := rest } :: outer) := by
  cases h with
  | body => exact .body left
  | within list later _ stands nested => exact .within list later left stands nested

theorem onto {s : Statement} {rest : List Statement} {around : Around} {whole : List Statement}
    {inner : Layer} (h : Nested body (⟨whole, s :: rest, around⟩ :: outer))
    (list : inner.whole ∈ s.lists) (later : ∀ c ∈ inner.around.later, c.body ∈ s.lists)
    (left : inner.rest <:+ inner.whole) :
    Nested body (inner :: ⟨whole, rest, around⟩ :: outer) :=
  have stands : s :: rest <:+ whole := h.left
  .within list later left stands (h.resume ((List.suffix_cons s rest).trans stands))

end Nested

def Within (body : List Statement) : Control → Prop
  | running layers => Nested body layers
  | _ => True

section Within

variable {body : List Statement} {outer : List Layer}

theorem carry_within {layers : List Layer} (flow : Flow) (h : Nested body layers) :
    (carry flow layers).Within body := by
  fun_induction carry flow layers with
  | case1 => trivial
  | case2 => exact h
  | case5 label layer outer rest found =>
    obtain ⟨before, t, hw⟩ := Run.afterLabel?_eq_some found
    exact h.resume ⟨before ++ [.label t label], by rw [hw, List.append_assoc]; rfl⟩
  | case3 _ _ _ ih | case4 _ _ _ _ _ ih | case6 _ _ _ _ ih | case7 _ _ _ _ _ _ ih => exact ih h.tail

theorem close_within {whole : List Statement} {around : Around}
    (h : Nested body (⟨whole, [], around⟩ :: outer)) :
    (close outer around).Within body := by
  unfold close
  split
  · -- the next case stands in the same switch
    cases h with
    | within list later _ stands nested =>
      exact .within (later _ List.mem_cons_self) (fun c hc => later c (List.mem_cons_of_mem _ hc))
        (List.suffix_refl _) stands nested
  · exact carry_within .next h.tail

theorem ofDeal_within {whole rest : List Statement} {s : Statement} {around : Around} {d : Deal}
    (h : Nested body (⟨whole, s :: rest, around⟩ :: outer)) (hd : d.StandsIn s) :
    (ofDeal d (⟨whole, rest, around⟩ :: outer)).Within body := by
  cases d with
  | opens b => exact h.onto hd (fun _ hc => nomatch hc) (List.suffix_refl b)
  | enters c later => exact h.onto hd.1 hd.2 (List.suffix_refl c.body)
  | hands flow => exact carry_within flow (h.resume ((List.suffix_cons s rest).trans h.left))

theorem Step.within {env : Environment} {a b : State} (step : Step env a b) (h : a.1.Within body) :
    b.1.Within body := by
  cases step with
  | close => exact close_within h
  | deal ran => exact ofDeal_within h (Run.deal_standsIn ran)
  | fail => trivial

end Within
end Control

end EdgeCache
