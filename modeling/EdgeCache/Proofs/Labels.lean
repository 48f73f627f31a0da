import EdgeCache.Proofs.Contract
import Mathlib.Data.List.Nodup

/-! The labels of a program: in which lists of statements they stand, and under which names they are
known. -/

namespace EdgeCache

def ElseIf.body : ElseIf → List Statement
  | mk _ b => b

namespace Statement

def lists : Statement → List (List Statement)
  | block _ b => [b]
  | branch _ _ a others last => a :: (others.map ElseIf.body ++ last.toList)
  | switch _ _ cases _ => cases.map Case.body
  | _ => []

/-- A jump out of a statement: none of the lists around it within the statement has the label. -/
inductive Escapes (label : String) : Statement → Prop
  | goto (t : Token) : Escapes label (goto t label)
  | within {s s' : Statement} {b : List Statement} (list : b ∈ s.lists) (stands : s' ∈ b)
    (absent : Run.afterLabel? label b = none) (jump : Escapes label s') : Escapes label s

def Resolved (body : List Statement) : Prop :=
  ∀ s ∈ body, ∀ label, s.Escapes label → (Run.afterLabel? label body).isSome = true

end Statement

namespace Run

theorem afterLabel?_eq_some {label : String} {whole rest : List Statement}
    (h : afterLabel? label whole = some rest) :
    ∃ before t, whole = before ++ .label t label :: rest := by
  fun_induction afterLabel? label whole with
  | case1 => cases h
  | case2 t ss =>
    cases h
    exact ⟨[], t, rfl⟩
  | case3 t n ss hn ih =>
    obtain ⟨before, t', hw⟩ := ih h
    exact ⟨.label t n :: before, t', by rw [hw]; rfl⟩
  | case4 s ss hs ih =>
    obtain ⟨before, t', hw⟩ := ih h
    exact ⟨s :: before, t', by rw [hw]; rfl⟩
end Run

namespace Declarations

section Labels

theorem labelsOfAll_eq (b : List Statement) : labelsOfAll b = b.flatMap labelsOf := by
  induction b with
  | nil => rfl
  | cons s ss ih => rw [labelsOfAll, ih, List.flatMap_cons]

theorem labelsOfElseIfs_eq (es : List ElseIf) :
    labelsOfElseIfs es = es.flatMap fun e => labelsOfAll e.body := by
  induction es with
  | nil => rfl
  | cons e es ih =>
    obtain ⟨c, b⟩ := e
    rw [labelsOfElseIfs, ih, List.flatMap_cons]
    rfl

theorem labelsOfCases_eq (cs : List Case) :
    labelsOfCases cs = cs.flatMap fun c => labelsOfAll c.body := by
  induction cs with
  | nil => rfl
  | cons c cs ih =>
    obtain ⟨t, test, b, fallthrough⟩ := c
    rw [labelsOfCases, ih, List.flatMap_cons]
    rfl

theorem labelsOf_branch (t : Token) (c : Expression) (a : List Statement) (others : List ElseIf)
    (last : Option (List Statement)) : labelsOf (.branch t c a others last) =
      labelsOfAll a ++ labelsOfElseIfs others ++ last.toList.flatMap labelsOfAll := by
  cases last with
  | none => rw [labelsOf, Option.toList_none, List.flatMap_nil]
  | some b => rw [labelsOf, Option.toList_some, List.flatMap_singleton]

theorem labelsOf_subset {s : Statement} {b : List Statement} (h : s ∈ b) :
    labelsOf s ⊆ labelsOfAll b := by
  rw [labelsOfAll_eq]
  exact fun _ hl => List.mem_flatMap_of_mem h hl

theorem labelsOfAll_subset {s : Statement} {b : List Statement} (h : b ∈ s.lists) :
    labelsOfAll b ⊆ labelsOf s := by
  intro l hl
  cases s with
  | block t b' =>
    cases List.mem_singleton.mp h
    exact hl
  | branch t c a others last =>
    rw [labelsOf_branch, labelsOfElseIfs_eq]
    rcases List.mem_cons.mp h with rfl | h
    · exact List.mem_append_left _ (List.mem_append_left _ hl)
    · rcases List.mem_append.mp h with h | h
      · obtain ⟨e, he, rfl⟩ := List.mem_map.mp h
        exact List.mem_append_left _ (List.mem_append_right _ (List.mem_flatMap_of_mem he hl))
      · exact List.mem_append_right _ (List.mem_flatMap_of_mem h hl)
  | switch t e cases default =>
    show l ∈ labelsOfCases cases
    rw [labelsOfCases_eq]
    obtain ⟨c, hc, rfl⟩ := List.mem_map.mp h
    exact List.mem_flatMap_of_mem hc hl
  | _ => cases h

theorem mem_labelsOfAll {label : String} {whole rest : List Statement}
    (h : Run.afterLabel? label whole = some rest) : label ∈ labelsOfAll whole := by
  obtain ⟨before, t, rfl⟩ := Run.afterLabel?_eq_some h
  exact labelsOf_subset (List.mem_append_right _ List.mem_cons_self) (List.mem_singleton.mpr rfl)

structure Registered (d : Declarations) : Prop where
  names : (d.labels.map Label.name).Nodup
  labels : ∀ s, d.Subroutine s → ∀ l ∈ labelsOfAll s.body, ⟨l, s.name⟩ ∈ d.labels

theorem insert_eq_ok {α : Type} {nameOf : α → String} {kind : String} {items items' : List α}
    {item : α} (h : insert nameOf kind items item = .ok items') :
    items' = items ++ [item] ∧ nameOf item ∉ items.map nameOf := by
  unfold insert at h
  split at h <;> cases h
  rename_i fresh
  refine ⟨rfl, fun known => fresh ?_⟩
  obtain ⟨i, hi, same⟩ := List.mem_map.mp known
  exact List.any_eq_true.mpr ⟨i, hi, beq_iff_eq.mpr same⟩

theorem addLabels_eq_ok {s : SubroutineDeclaration} {labels labels' : List Label}
    (h : addLabels s labels = .ok labels') (names : (labels.map Label.name).Nodup) :
    (labels'.map Label.name).Nodup ∧ labels ⊆ labels' ∧
      ∀ l ∈ labelsOfAll s.body, ⟨l, s.name⟩ ∈ labels' := by
  unfold addLabels at h
  generalize labelsOfAll s.body = ls at h
  induction ls generalizing labels with
  | nil =>
    cases h
    exact ⟨names, List.Subset.refl _, fun _ h => (nomatch h)⟩
  | cons l ls ih =>
    rw [List.foldlM_cons] at h
    obtain ⟨added, hadded, h⟩ := bind_eq_ok h
    obtain ⟨rfl, fresh⟩ := insert_eq_ok hadded
    have grown : ((labels ++ [Label.mk l s.name]).map Label.name).Nodup := by
      rw [List.map_append]
      exact names.append (List.nodup_singleton _) (List.disjoint_singleton.mpr fresh)
    obtain ⟨names', kept, known⟩ := ih grown h
    obtain ⟨old, new⟩ := List.append_subset.mp kept
    exact ⟨names', old, List.forall_mem_cons.mpr ⟨new List.mem_cons_self, known⟩⟩

theorem labels_of_add {d d' : Declarations} {decl : Declaration} (h : d.add decl = .ok d')
    (hd : ∀ s, decl ≠ .subroutine s) : d'.labels = d.labels := by
  cases decl with
  | acl a =>
    simp only [add] at h
    split at h
    · cases h
    · obtain ⟨_, -, h⟩ := bind_eq_ok h
      cases h
      rfl
  | subroutine s => exact absurd rfl (hd s)
  | backend | director | table | penaltybox | ratecounter =>
    obtain ⟨_, -, h⟩ := bind_eq_ok h
    cases h
    rfl

theorem Registered.of_add {d d' : Declarations} {decl : Declaration} (h : d.add decl = .ok d')
    (hd : d.Registered) :
    d'.Registered := by
  by_cases hs : ∃ s, decl = .subroutine s
  · obtain ⟨s, rfl⟩ := hs
    obtain ⟨labels, hl, h'⟩ := bind_eq_ok h
    obtain ⟨names, kept, known⟩ := addLabels_eq_ok hl hd.names
    have same : d'.labels = labels := by
      split at h'
      · obtain ⟨_, -, h'⟩ := bind_eq_ok h'
        cases h'
        rfl
      · obtain ⟨_, -, h'⟩ := bind_eq_ok h'
        cases h'
        rfl
    refine ⟨same ▸ names, fun t ht l hl => ?_⟩
    rw [same]
    rcases subroutine_of_add h ht with old | new
    · exact kept (hd.labels t old l hl)
    · cases new
      exact known l hl
  · have other (s : SubroutineDeclaration) : decl ≠ .subroutine s := fun e => hs ⟨s, e⟩
    have same := labels_of_add h other
    refine ⟨same ▸ hd.names, fun t ht l hl => ?_⟩
    rw [same]
    exact hd.labels t ((subroutine_of_add h ht).resolve_right (other t)) l hl

theorem registered_of_load {p : Program} {d : Declarations} (h : load p = .ok d) : d.Registered :=
  foldlM_keeps (P := Registered) (fun _ _ _ _ added known => known.of_add added) h
    ⟨List.nodup_nil, fun _ hs => by rcases hs with hs | hs <;> cases hs⟩

theorem Registered.label?_eq {d : Declarations} (h : d.Registered) {s : SubroutineDeclaration}
    (hs : d.Subroutine s) {l : String} (hl : l ∈ labelsOfAll s.body) :
    d.label? l = some ⟨l, s.name⟩ := by
  have known := h.labels s hs l hl
  cases found : d.label? l with
  | none => exact absurd (List.find?_eq_none.mp found _ known) (by simp)
  | some l' =>
    have named : (l'.name == l) = true := List.find?_some (p := fun k : Label => k.name == l) found
    rw [List.inj_on_of_nodup_map h.names (List.mem_of_find?_eq_some found) known
      (beq_iff_eq.mp named)]

end Labels

end Declarations

end EdgeCache
