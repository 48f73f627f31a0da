import EdgeCache.Proofs.AccessList
import EdgeCache.Proofs.Calls
import Mathlib.Data.List.Induction
import Mathlib.Data.List.Nodup
import Mathlib.Data.List.Pairwise

/-! What loading makes of a program: it succeeds exactly if no name is declared twice in one space
and no label stands at two places, and then every name leads to what was declared under it. -/

namespace EdgeCache

/-- What a list holds is found at places, and the list has an item for every place. -/
structure Listed {P α : Type} (xs : List α) (At : P → α → Prop) : Prop where
  mem : ∀ x, x ∈ xs ↔ ∃ p, At p x
  nodup : xs.Nodup ↔ ∀ x p q, At p x → At q x → p = q

namespace Listed

variable {P Q α β : Type} {f : α → List β}

theorem flatMap {as : List α} {At : α → P → β → Prop} (h : ∀ a ∈ as, Listed (f a) (At a)) :
    Listed (as.flatMap f) fun (p : Nat × P) x => ∃ a, as[p.1]? = some a ∧ At a p.2 x := by
  constructor
  · intro x
    rw [List.mem_flatMap]
    constructor
    · rintro ⟨a, ha, hx⟩
      obtain ⟨i, there⟩ := List.mem_iff_getElem?.mp ha
      obtain ⟨p, hp⟩ := ((h a ha).mem x).mp hx
      exact ⟨(i, p), a, there, hp⟩
    · rintro ⟨⟨i, p⟩, a, there, hp⟩
      have ha := List.mem_of_getElem? there
      exact ⟨a, ha, ((h a ha).mem x).mpr ⟨p, hp⟩⟩
  · rw [List.nodup_flatMap, List.pairwise_iff_getElem]
    constructor
    · rintro ⟨each, apart⟩ x ⟨i, p⟩ ⟨j, q⟩ ⟨a, ha, hp⟩ ⟨b, hb, hq⟩
      obtain ⟨hi, rfl⟩ := List.getElem?_eq_some_iff.mp ha
      obtain ⟨hj, rfl⟩ := List.getElem?_eq_some_iff.mp hb
      have inFirst := ((h _ (List.getElem_mem hi)).mem x).mpr ⟨p, hp⟩
      have inSecond := ((h _ (List.getElem_mem hj)).mem x).mpr ⟨q, hq⟩
      have same : i = j := by
        rcases Nat.lt_trichotomy i j with less | same | more
        · exact absurd inSecond (apart i j hi hj less inFirst)
        · exact same
        · exact absurd inFirst (apart j i hj hi more inSecond)
      subst same
      rw [((h _ (List.getElem_mem hi)).nodup.mp (each _ (List.getElem_mem hi))) x p q hp hq]
    · intro unique
      refine ⟨fun a ha => (h a ha).nodup.mpr fun x p q hp hq => ?_,
        fun i j hi hj less x hx hx' => ?_⟩
      · obtain ⟨i, there⟩ := List.mem_iff_getElem?.mp ha
        exact (Prod.mk.inj (unique x (i, p) (i, q) ⟨a, there, hp⟩ ⟨a, there, hq⟩)).2
      · obtain ⟨p, hp⟩ := ((h _ (List.getElem_mem hi)).mem x).mp hx
        obtain ⟨q, hq⟩ := ((h _ (List.getElem_mem hj)).mem x).mp hx'
        have same := unique x (i, p) (j, q) ⟨_, List.getElem?_eq_getElem hi, hp⟩
          ⟨_, List.getElem?_eq_getElem hj, hq⟩
        exact absurd (Prod.mk.inj same).1 (Nat.ne_of_lt less)

theorem rename {xs : List α} {At : P → α → Prop} {At' : Q → α → Prop} (h : Listed xs At)
    (name : P → Q) (injective : ∀ p q, name p = name q → p = q)
    (same : ∀ q x, At' q x ↔ ∃ p, name p = q ∧ At p x) :
    Listed xs At' := by
  constructor
  · intro x
    rw [h.mem]
    constructor
    · rintro ⟨p, hp⟩
      exact ⟨name p, (same _ x).mpr ⟨p, rfl, hp⟩⟩
    · rintro ⟨q, hq⟩
      obtain ⟨p, -, hp⟩ := (same q x).mp hq
      exact ⟨p, hp⟩
  · rw [h.nodup]
    constructor
    · intro unique x q q' hq hq'
      obtain ⟨p, rfl, hp⟩ := (same q x).mp hq
      obtain ⟨p', rfl, hp'⟩ := (same q' x).mp hq'
      rw [unique x p p' hp hp']
    · exact fun unique x p q hp hq =>
        injective p q (unique x _ _ ((same _ x).mpr ⟨p, rfl, hp⟩) ((same _ x).mpr ⟨q, rfl, hq⟩))

end Listed

namespace Statement

/-- A label stands at a place in a statement: in its list of this number, in the statement of that
number, and so on. -/
inductive LabelAt (label : String) : List (Nat × Nat) → Statement → Prop
  | here (t : Token) : LabelAt label [] (.label t label)
  | inside {s s' : Statement} {b : List Statement} {i j : Nat} {place : List (Nat × Nat)}
    (list : s.lists[i]? = some b)
    (stands : b[j]? = some s') (there : LabelAt label place s') : LabelAt label ((i, j) :: place) s

end Statement

namespace Declarations

open Statement (LabelAt)

theorem labelsOf_eq {s : Statement} (h : ∀ t l, s ≠ .label t l) :
    labelsOf s = s.lists.flatMap labelsOfAll := by
  cases s with
  | label t l => exact absurd rfl (h t l)
  | block t b => rw [labelsOf, Statement.lists, List.flatMap_singleton]
  | branch t c a others last =>
    rw [labelsOf_branch, labelsOfElseIfs_eq, Statement.lists, List.flatMap_cons,
      List.flatMap_append, List.flatMap_map, List.append_assoc]
  | switch t e cases default => rw [labelsOf, labelsOfCases_eq, Statement.lists, List.flatMap_map]
  | _ => rfl

theorem labelAt_iff {s : Statement} (h : ∀ t l, s ≠ .label t l) (q : List (Nat × Nat))
    (l : String) :
    LabelAt l q s ↔ ∃ p : Nat × Nat × List (Nat × Nat), (p.1, p.2.1) :: p.2.2 = q ∧
      ∃ b, s.lists[p.1]? = some b ∧ ∃ s', b[p.2.1]? = some s' ∧ LabelAt l p.2.2 s' := by
  constructor
  · intro there
    cases there with
    | here t => exact absurd rfl (h t l)
    | @inside _ s' b i j place list stands there =>
      exact ⟨(i, j, place), rfl, b, list, s', stands, there⟩
  · rintro ⟨p, rfl, b, list, s', stands, there⟩
    exact .inside list stands there

theorem labelsOf_listed (s : Statement) : Listed (labelsOf s) fun place l => LabelAt l place s := by
  by_cases isLabel : ∃ t l, s = .label t l
  · obtain ⟨t, l, rfl⟩ := isLabel
    have only {place : List (Nat × Nat)} {x : String} (h : LabelAt x place (.label t l)) :
        place = [] ∧ x = l := by
      cases h with
      | here => exact ⟨rfl, rfl⟩
      | inside list => cases list
    constructor
    · intro x
      rw [labelsOf, List.mem_singleton]
      constructor
      · rintro rfl
        exact ⟨[], .here t⟩
      · rintro ⟨place, h⟩
        exact (only h).2
    · refine iff_of_true (List.nodup_singleton l) fun x p q hp hq => ?_
      rw [(only hp).1, (only hq).1]
  · have other (t : Token) (l : String) : s ≠ .label t l := fun h => isLabel ⟨t, l, h⟩
    have parts : Listed (s.lists.flatMap labelsOfAll) fun (p : Nat × Nat × List (Nat × Nat)) l =>
        ∃ b, s.lists[p.1]? = some b ∧ ∃ s', b[p.2.1]? = some s' ∧ LabelAt l p.2.2 s' := by
      have list (b : List Statement) (hb : b ∈ s.lists) : Listed (labelsOfAll b)
          fun (p : Nat × List (Nat × Nat)) l => ∃ s', b[p.1]? = some s' ∧ LabelAt l p.2 s' := by
        rw [labelsOfAll_eq]
        exact Listed.flatMap fun s' hs' =>
          have smaller := Statement.size_list hb
          have part := Statement.size_le_sizes hs'
          labelsOf_listed s'
      exact Listed.flatMap list
    rw [labelsOf_eq other]
    refine parts.rename (fun p => (p.1, p.2.1) :: p.2.2) (fun p q same => ?_) (labelAt_iff other)
    obtain ⟨first, rest⟩ := List.cons.inj same
    obtain ⟨i, j⟩ := Prod.mk.inj first
    exact Prod.ext i (Prod.ext j rest)
termination_by s.size

end Declarations

namespace Declaration

inductive Space where
  | acl | backend | table | plain | functional | penaltybox | ratecounter
  deriving DecidableEq

@[simp] def key : Declaration → Space × String
  | .acl d => (.acl, d.name)
  | .backend d => (.backend, d.name)
  | .director d => (.backend, d.name)
  | .table d => (.table, d.name)
  | .subroutine d => (if d.returns.isSome then .functional else .plain, d.name)
  | .penaltybox d => (.penaltybox, d.name)
  | .ratecounter d => (.ratecounter, d.name)

@[simp] def acl? : Declaration → Option Acl
  | .acl d => (Acl.ofDeclaration d).toOption
  | _ => none

@[simp] def backend? : Declaration → Option Backend
  | .backend d => some ⟨d.name, .origin d⟩
  | .director d => some ⟨d.name, .director d⟩
  | _ => none

@[simp] def table? : Declaration → Option TableDeclaration
  | .table d => some d
  | _ => none

@[simp] def plain? : Declaration → Option SubroutineDeclaration
  | .subroutine d => if d.returns.isSome then none else some d
  | _ => none

@[simp] def functional? : Declaration → Option SubroutineDeclaration
  | .subroutine d => if d.returns.isSome then some d else none
  | _ => none

@[simp] def penaltybox? : Declaration → Option NamedDeclaration
  | .penaltybox d => some d
  | _ => none

@[simp] def ratecounter? : Declaration → Option NamedDeclaration
  | .ratecounter d => some d
  | _ => none

@[simp] def origin? : Declaration → Option String
  | .backend d => some d.name
  | _ => none

@[simp] def labels : Declaration → List Label
  | .subroutine d => (Declarations.labelsOfAll d.body).map (⟨·, d.name⟩)
  | _ => []

def Valid (x : Declaration) : Prop :=
  ∀ d, x = .acl d → ∀ e ∈ d.entries, ∃ r, AclRule.ofEntry e = .ok r

end Declaration

namespace Declarations

def ofList (ds : List Declaration) : Declarations where
  acls := ds.filterMap Declaration.acl?
  backends := ds.filterMap Declaration.backend?
  tables := ds.filterMap Declaration.table?
  subroutines := ds.filterMap Declaration.plain?
  functional := ds.filterMap Declaration.functional?
  penaltyboxes := ds.filterMap Declaration.penaltybox?
  ratecounters := ds.filterMap Declaration.ratecounter?
  labels := ds.flatMap Declaration.labels
  firstOrigin := (ds.filterMap Declaration.origin?).head?

theorem insert_eq_ok_iff {α : Type} {nameOf : α → String} {kind : String} {items items' : List α}
    {item : α} :
    insert nameOf kind items item = .ok items' ↔
    nameOf item ∉ items.map nameOf ∧ items' = items ++ [item] := by
  refine ⟨fun h => (insert_eq_ok h).symm, ?_⟩
  rintro ⟨fresh, rfl⟩
  have absent : ¬ (items.any fun i => nameOf i == nameOf item) = true := fun known => by
    obtain ⟨i, hi, same⟩ := List.any_eq_true.mp known
    exact fresh (List.mem_map.mpr ⟨i, hi, beq_iff_eq.mp same⟩)
  simp only [insert, absent, Bool.false_eq_true, if_false]

theorem insertLabels_eq_ok_iff (subroutine : String) (ls : List String)
    {labels labels' : List Label} (names : (labels.map Label.name).Nodup) :
    ls.foldlM (fun ls n => insert Label.name "goto destination" ls ⟨n, subroutine⟩) labels =
      .ok labels' ↔
      ((labels ++ ls.map (Label.mk · subroutine)).map Label.name).Nodup ∧
        labels' = labels ++ ls.map (Label.mk · subroutine) := by
  induction ls generalizing labels with
  | nil =>
    rw [List.map_nil, List.append_nil]
    exact ⟨fun h => ⟨names, (Except.ok.inj h).symm⟩, fun h => congrArg Except.ok h.2.symm⟩
  | cons l ls ih =>
    have known : ((labels ++ [Label.mk l subroutine]).map Label.name).Nodup ↔
        l ∉ labels.map Label.name := by
      rw [List.map_append, List.nodup_append_comm]
      exact List.nodup_cons.trans (and_iff_left names)
    rw [List.foldlM_cons, List.map_cons, List.append_cons]
    constructor
    · intro h
      obtain ⟨added, hadded, h⟩ := bind_eq_ok h
      obtain ⟨fresh, rfl⟩ := insert_eq_ok_iff.mp hadded
      exact (ih (known.mpr fresh)).mp h
    · rintro ⟨unique, rfl⟩
      have first : ((labels ++ [Label.mk l subroutine]).map Label.name).Nodup := by
        rw [List.map_append] at unique
        exact unique.of_append_left
      have added : insert Label.name "goto destination" labels ⟨l, subroutine⟩ =
          .ok (labels ++ [⟨l, subroutine⟩]) :=
        insert_eq_ok_iff.mpr ⟨known.mp first, rfl⟩
      rw [added]
      exact (ih first).mpr ⟨unique, rfl⟩

theorem insert_bind_eq_ok_iff {α β : Type} {nameOf : α → String} {kind : String} {items : List α}
    {item : α} {f : List α → β} {b : β} :
    (do let items' ← insert nameOf kind items item; return f items') = .ok b ↔
      nameOf item ∉ items.map nameOf ∧ b = f (items ++ [item]) := by
  constructor
  · intro h
    obtain ⟨items', hi, h⟩ := bind_eq_ok h
    obtain ⟨fresh, rfl⟩ := insert_eq_ok_iff.mp hi
    exact ⟨fresh, (Except.ok.inj h).symm⟩
  · rintro ⟨fresh, rfl⟩
    rw [insert_eq_ok_iff.mpr ⟨fresh, rfl⟩]
    rfl

theorem addLabels_bind_eq_ok_iff {s : SubroutineDeclaration} {labels : List Label}
    {items : List SubroutineDeclaration}
    {make : List Label → List SubroutineDeclaration → Declarations} {d : Declarations}
    (names : (labels.map Label.name).Nodup) : (do
        let labels' ← addLabels s labels
        let items' ← insert SubroutineDeclaration.name "subroutine" items s
        return make labels' items') = .ok d ↔
      ((labels ++ (Declaration.subroutine s).labels).map Label.name).Nodup ∧
        s.name ∉ items.map SubroutineDeclaration.name ∧
          d = make (labels ++ (Declaration.subroutine s).labels) (items ++ [s]) := by
  have inserted (labels' : List Label) : addLabels s labels = .ok labels' ↔
      ((labels ++ (Declaration.subroutine s).labels).map Label.name).Nodup ∧
        labels' = labels ++ (Declaration.subroutine s).labels :=
          insertLabels_eq_ok_iff s.name _ names
  constructor
  · intro h
    obtain ⟨labels', hl, h⟩ := bind_eq_ok h
    obtain ⟨unique, rfl⟩ := (inserted labels').mp hl
    exact ⟨unique, insert_bind_eq_ok_iff.mp h⟩
  · rintro ⟨unique, fresh⟩
    rw [(inserted _).mpr ⟨unique, rfl⟩]
    exact insert_bind_eq_ok_iff.mpr fresh

end Declarations

namespace Declaration

variable {ds : List Declaration} {n : String}

theorem valid_acl_iff {d : AclDeclaration} :
    (acl d).Valid ↔ ∃ acl, Acl.ofDeclaration d = .ok acl := by
  constructor
  · intro valid
    have entries :
        ∃ rules, List.Forall₂ (fun e r => AclRule.ofEntry e = .ok r) d.entries rules := by
      have each := valid d rfl
      generalize d.entries = es at each
      induction es with
      | nil => exact ⟨[], .nil⟩
      | cons e es ih =>
        obtain ⟨⟨r, hr⟩, rest⟩ := List.forall_mem_cons.mp each
        obtain ⟨rules, hrules⟩ := ih rest
        exact ⟨r :: rules, .cons hr hrules⟩
    obtain ⟨rules, read⟩ := entries
    exact ⟨⟨d.name, rules⟩, Acl.ofDeclaration_eq_ok_iff.mpr ⟨rfl, read⟩⟩
  · rintro ⟨list, built⟩ d' same e he
    cases same
    obtain ⟨-, read⟩ := Acl.ofDeclaration_eq_ok_iff.mp built
    obtain ⟨i, hi, rfl⟩ := List.getElem_of_mem he
    exact ⟨_, read.get hi (read.length_eq ▸ hi)⟩

theorem mem_keys {β : Type} {nameOf : β → String} {item? : Declaration → Option β} {space : Space}
    (h : ∀ x ∈ ds, x.key = (space, n) ↔ (item? x).map nameOf = some n) :
    (space, n) ∈ ds.map key ↔ n ∈ (ds.filterMap item?).map nameOf := by
  rw [List.map_filterMap, List.mem_filterMap, List.mem_map]
  exact ⟨fun ⟨x, hx, named⟩ => ⟨x, hx, (h x hx).mp named⟩,
    fun ⟨x, hx, named⟩ => ⟨x, hx, (h x hx).mpr named⟩⟩

theorem key_acl {x : Declaration} (valid : x.Valid) :
    x.key = (.acl, n) ↔ x.acl?.map Acl.name = some n := by
  cases x with
  | acl d =>
    obtain ⟨list, built⟩ := valid_acl_iff.mp valid
    obtain ⟨name, -⟩ := Acl.ofDeclaration_eq_ok_iff.mp built
    simp [built, Except.toOption, name]
  | subroutine d => cases h : d.returns <;> simp [h]
  | _ => simp

theorem key_iff (x : Declaration) (n : String) :
    (x.key = (.backend, n) ↔ x.backend?.map Backend.name = some n) ∧
    (x.key = (.table, n) ↔ x.table?.map TableDeclaration.name = some n) ∧
    (x.key = (.plain, n) ↔ x.plain?.map SubroutineDeclaration.name = some n) ∧
    (x.key = (.functional, n) ↔ x.functional?.map SubroutineDeclaration.name = some n) ∧
    (x.key = (.penaltybox, n) ↔ x.penaltybox?.map NamedDeclaration.name = some n) ∧
    (x.key = (.ratecounter, n) ↔ x.ratecounter?.map NamedDeclaration.name = some n) := by
  cases x with
  | subroutine d => cases h : d.returns <;> simp [h]
  | _ => simp

end Declaration

namespace Declarations

open Declaration (key_iff key_acl mem_keys valid_acl_iff)

section Loading

variable {ds : List Declaration} {x : Declaration} {d d' : Declarations}

theorem ofList_concat (ds : List Declaration) (x : Declaration) : ofList (ds ++ [x]) = {
    acls := (ofList ds).acls ++ x.acl?.toList
    backends := (ofList ds).backends ++ x.backend?.toList
    tables := (ofList ds).tables ++ x.table?.toList
    subroutines := (ofList ds).subroutines ++ x.plain?.toList
    functional := (ofList ds).functional ++ x.functional?.toList
    penaltyboxes := (ofList ds).penaltyboxes ++ x.penaltybox?.toList
    ratecounters := (ofList ds).ratecounters ++ x.ratecounter?.toList
    labels := (ofList ds).labels ++ x.labels
    firstOrigin := (ofList ds).firstOrigin.or x.origin? } := by
  have concat {β : Type} (item? : Declaration → Option β) :
      (ds ++ [x]).filterMap item? = ds.filterMap item? ++ (item? x).toList := by
    rw [List.filterMap_append]
    cases h : item? x <;> simp [h]
  simp only [ofList, concat, List.flatMap_append, List.flatMap_singleton, List.head?_append]
  cases x.origin? <;> rfl

structure Adds (ds : List Declaration) (x : Declaration) (d : Declarations) : Prop where
  valid : x.Valid
  fresh : x.key ∉ ds.map Declaration.key
  labels : ((ofList (ds ++ [x])).labels.map Label.name).Nodup
  known : d = ofList (ds ++ [x])

theorem labels_concat (ds : List Declaration) (x : Declaration) :
    (ofList (ds ++ [x])).labels = (ofList ds).labels ++ x.labels := by rw [ofList_concat]

theorem addLabels_adds {s : SubroutineDeclaration} {items : List SubroutineDeclaration}
    {make : List Label → List SubroutineDeclaration → Declarations}
    (names : ((ofList ds).labels.map Label.name).Nodup)
    (key : (Declaration.subroutine s).key ∈ ds.map Declaration.key ↔
      s.name ∈ items.map SubroutineDeclaration.name)
    (same : make ((ofList ds).labels ++ (Declaration.subroutine s).labels) (items ++ [s]) =
      ofList (ds ++ [.subroutine s])) :
    (do
        let labels' ← addLabels s (ofList ds).labels
        let items' ← insert SubroutineDeclaration.name "subroutine" items s
        return make labels' items') = .ok d' ↔ Adds ds (.subroutine s) d' := by
  rw [addLabels_bind_eq_ok_iff names, same, ← labels_concat, ← key]
  exact ⟨fun ⟨unique, fresh, known⟩ => ⟨fun _ other => (by cases other), fresh, unique, known⟩,
    fun h => ⟨h.labels, h.fresh, h.known⟩⟩

theorem insert_adds {α : Type} {nameOf : α → String} {kind : String} {items : List α} {item : α}
    {make : List α → Declarations} (names : ((ofList ds).labels.map Label.name).Nodup)
    (valid : x.Valid) (none : x.labels = [])
    (key : x.key ∈ ds.map Declaration.key ↔ nameOf item ∈ items.map nameOf)
    (same : make (items ++ [item]) = ofList (ds ++ [x])) :
    (do let items' ← insert nameOf kind items item; return make items') = .ok d' ↔
    Adds ds x d' := by
  have labels : ((ofList (ds ++ [x])).labels.map Label.name).Nodup := by
    rw [labels_concat, none, List.append_nil]
    exact names
  rw [insert_bind_eq_ok_iff, same, ← key]
  exact ⟨fun ⟨fresh, known⟩ => ⟨valid, fresh, labels, known⟩, fun h => ⟨h.fresh, h.known⟩⟩

theorem acl_adds {a : AclDeclaration} (valid : ∀ y ∈ ds, y.Valid)
    (names : ((ofList ds).labels.map Label.name).Nodup) :
    (ofList ds).add (.acl a) = .ok d' ↔ Adds ds (.acl a) d' := by
  cases built : Acl.ofDeclaration a with
  | error e =>
    simp only [add, built]
    refine ⟨fun h => (by cases h), fun h => ?_⟩
    obtain ⟨list, hl⟩ := valid_acl_iff.mp h.valid
    cases built.symm.trans hl
  | ok list =>
    obtain ⟨name, -⟩ := Acl.ofDeclaration_eq_ok_iff.mp built
    have key : (Declaration.acl a).key ∈ ds.map Declaration.key ↔
        list.name ∈ (ofList ds).acls.map Acl.name := by
      rw [name]
      exact mem_keys fun y hy => key_acl (valid y hy)
    simp only [add, built]
    exact insert_adds names (valid_acl_iff.mpr ⟨list, built⟩) rfl key
      (by simp [ofList_concat, built, Except.toOption])

theorem subroutine_adds {s : SubroutineDeclaration}
    (names : ((ofList ds).labels.map Label.name).Nodup) :
    (ofList ds).add (.subroutine s) = .ok d' ↔ Adds ds (.subroutine s) d' := by
  cases returns : s.returns with
  | none =>
    have space : (Declaration.subroutine s).key = (.plain, s.name) := by simp [returns]
    have key := space ▸ mem_keys fun y (_ : y ∈ ds) => (key_iff y s.name).2.2.1
    simp only [add, returns]
    exact addLabels_adds names key (by simp [ofList_concat, returns])
  | some k =>
    have space : (Declaration.subroutine s).key = (.functional, s.name) := by simp [returns]
    have key := space ▸ mem_keys fun y (_ : y ∈ ds) => (key_iff y s.name).2.2.2.1
    simp only [add, returns]
    exact addLabels_adds names key (by simp [ofList_concat, returns])

theorem add_ofList (valid : ∀ y ∈ ds, y.Valid) (names : ((ofList ds).labels.map Label.name).Nodup) :
    (ofList ds).add x = .ok d' ↔ Adds ds x d' := by
  have noList (h : ∀ a, x ≠ .acl a) : x.Valid := fun a same => absurd same (h a)
  cases x with
  | acl a => exact acl_adds valid names
  | backend b =>
    simp only [add]
    refine insert_adds names (noList (by rintro a ⟨⟩)) rfl (mem_keys fun y _ => (key_iff y _).1) ?_
    rw [ofList_concat]
    cases (ofList ds).firstOrigin <;> simp
  | director p =>
    simp only [add]
    exact insert_adds names (noList (by rintro a ⟨⟩)) rfl (mem_keys fun y _ => (key_iff y _).1)
      (by simp [ofList_concat])
  | table t =>
    simp only [add]
    exact insert_adds names (noList (by rintro a ⟨⟩)) rfl (mem_keys fun y _ => (key_iff y _).2.1)
      (by simp [ofList_concat])
  | subroutine s => exact subroutine_adds names
  | penaltybox b =>
    simp only [add]
    exact insert_adds names (noList (by rintro a ⟨⟩)) rfl
      (mem_keys fun y _ => (key_iff y _).2.2.2.2.1)
      (by simp [ofList_concat])
  | ratecounter r =>
    simp only [add]
    exact insert_adds names (noList (by rintro a ⟨⟩)) rfl
      (mem_keys fun y _ => (key_iff y _).2.2.2.2.2)
      (by simp [ofList_concat])

theorem foldlM_add_iff (ds : List Declaration) : ds.foldlM add empty = .ok d ↔
    (∀ x ∈ ds, x.Valid) ∧ (ds.map Declaration.key).Nodup ∧
    ((ofList ds).labels.map Label.name).Nodup ∧
      d = ofList ds := by
  -- the declarations are added one by one at the end
  induction ds using List.reverseRecOn generalizing d with
  | nil =>
    refine ⟨fun h => ⟨fun _ h => (nomatch h), List.nodup_nil, List.nodup_nil,
      (Except.ok.inj h).symm⟩, ?_⟩
    rintro ⟨-, -, -, rfl⟩
    rfl
  | append_singleton ds x ih =>
    rw [List.foldlM_append, List.map_append, List.nodup_append_comm, List.forall_mem_append]
    constructor
    · intro h
      obtain ⟨known, hk, h⟩ := bind_eq_ok h
      obtain ⟨valid, keys, labels, rfl⟩ := ih.mp hk
      obtain ⟨d', hd, h⟩ := bind_eq_ok h
      cases h
      have adds := (add_ofList valid labels).mp hd
      exact ⟨⟨valid, List.forall_mem_singleton.mpr adds.valid⟩,
        List.nodup_cons.mpr ⟨adds.fresh, keys⟩, adds.labels, adds.known⟩
    · rintro ⟨⟨valid, isValid⟩, keys, unique, rfl⟩
      obtain ⟨fresh, keys⟩ := List.nodup_cons.mp keys
      have labels : ((ofList ds).labels.map Label.name).Nodup := by
        rw [labels_concat, List.map_append] at unique
        exact unique.of_append_left
      rw [ih.mpr ⟨valid, keys, labels, rfl⟩]
      have added := (add_ofList valid labels).mpr ⟨isValid x List.mem_cons_self, fresh, unique, rfl⟩
      show (do
        let d ← (ofList ds).add x
        [].foldlM add d) = _
      rw [added]
      rfl

end Loading

end Declarations

def SubroutineDeclaration.HasLabel (d : SubroutineDeclaration) (label : String) : Prop :=
  ∃ s ∈ d.body, ∃ place, s.LabelAt label place

namespace Program

def NamesUnique (p : Program) : Prop := (p.declarations.map Declaration.key).Nodup

/-- A label stands in the declaration of this number, there in the statement of that number of its
body, and in that at some place. -/
def LabelAt (p : Program) (label : String) (place : Nat × Nat × List (Nat × Nat)) : Prop :=
  ∃ d s, p.declarations[place.1]? = some (.subroutine d) ∧ d.body[place.2.1]? = some s ∧
    s.LabelAt label place.2.2

/-- The first backend that is declared; directors do not count. -/
def FirstOrigin (p : Program) (b : BackendDeclaration) : Prop :=
  ∃ before after : List Declaration, p.declarations = before ++ .backend b :: after ∧ ∀ b',
    .backend b' ∉ before

def LabelsUnique (p : Program) : Prop := ∀ label x y, p.LabelAt label x → p.LabelAt label y → x = y

end Program

namespace Declarations

section Labels

open Statement (LabelAt)

theorem labelsOfAll_listed (b : List Statement) :
    Listed (labelsOfAll b) fun (p : Nat × List (Nat × Nat)) l =>
    ∃ s, b[p.1]? = some s ∧ LabelAt l p.2 s := by
  rw [labelsOfAll_eq]
  exact Listed.flatMap fun s _ => labelsOf_listed s

theorem mem_labelsOfAll_iff {d : SubroutineDeclaration} {l : String} :
    l ∈ labelsOfAll d.body ↔ d.HasLabel l := by
  rw [(labelsOfAll_listed d.body).mem]
  constructor
  · rintro ⟨p, s, stands, there⟩
    exact ⟨s, List.mem_of_getElem? stands, p.2, there⟩
  · rintro ⟨s, hs, place, there⟩
    obtain ⟨i, stands⟩ := List.mem_iff_getElem?.mp hs
    exact ⟨(i, place), s, stands, there⟩

theorem labels_listed (x : Declaration) :
    Listed (x.labels.map Label.name) fun (p : Nat × List (Nat × Nat)) l =>
    ∃ d s, x = .subroutine d ∧ d.body[p.1]? = some s ∧ LabelAt l p.2 s := by
  by_cases isSubroutine : ∃ d, x = .subroutine d
  · obtain ⟨d, rfl⟩ := isSubroutine
    have names : (Declaration.subroutine d).labels.map Label.name = labelsOfAll d.body := by
      rw [Declaration.labels, List.map_map]
      exact List.map_id _
    rw [names]
    refine (labelsOfAll_listed d.body).rename id (fun _ _ same => same) fun q l => ?_
    constructor
    · rintro ⟨_, s, same, there⟩
      cases same
      exact ⟨q, rfl, s, there⟩
    · rintro ⟨_, rfl, s, there⟩
      exact ⟨d, s, rfl, there⟩
  · have none : x.labels = [] := by
      cases x with
      | subroutine d => exact absurd ⟨d, rfl⟩ isSubroutine
      | _ => rfl
    have nowhere (d : SubroutineDeclaration) (h : x = .subroutine d) : False := isSubroutine ⟨d, h⟩
    rw [none]
    refine ⟨fun l => iff_of_false List.not_mem_nil ?_, iff_of_true List.nodup_nil ?_⟩
    · rintro ⟨p, d, s, same, -⟩
      exact nowhere d same
    · rintro l p q ⟨d, s, same, -⟩
      exact (nowhere d same).elim

theorem labels_nodup_iff (p : Program) :
    ((ofList p.declarations).labels.map Label.name).Nodup ↔ p.LabelsUnique := by
  have names : (ofList p.declarations).labels.map Label.name =
      p.declarations.flatMap fun x => x.labels.map Label.name := List.map_flatMap
  have listed := Listed.flatMap fun x (_ : x ∈ p.declarations) => labels_listed x
  rw [names, listed.nodup]
  have at_iff (l : String) (q : Nat × Nat × List (Nat × Nat)) :
      (∃ x, p.declarations[q.1]? = some x ∧
      ∃ d s, x = .subroutine d ∧ d.body[q.2.1]? = some s ∧ LabelAt l q.2.2 s) ↔ p.LabelAt l q :=
    ⟨fun ⟨_, hx, d, s, same, there⟩ => ⟨d, s, same ▸ hx, there⟩,
      fun ⟨d, s, hx, there⟩ => ⟨_, hx, d, s, rfl, there⟩⟩
  simp only [at_iff]
  rfl

end Labels

section Names

variable {ds : List Declaration}

theorem find?_name_iff {α : Type} {nameOf : α → String} {items : List α}
    (names : (items.map nameOf).Nodup) (n : String) (v : α) :
    items.find? (fun i => nameOf i == n) = some v ↔ v ∈ items ∧ nameOf v = n := by
  constructor
  · intro found
    exact ⟨List.mem_of_find?_eq_some found,
      beq_iff_eq.mp (List.find?_some (p := fun i => nameOf i == n) found)⟩
  · rintro ⟨hv, named⟩
    cases found : items.find? fun i => nameOf i == n with
    | none => exact absurd (List.find?_eq_none.mp found v hv) (by simp [named])
    | some w =>
      have named' := beq_iff_eq.mp (List.find?_some (p := fun i => nameOf i == n) found)
      rw [List.inj_on_of_nodup_map names (List.mem_of_find?_eq_some found) hv
        (named'.trans named.symm)]

theorem lookup_iff {β : Type} {nameOf : β → String} {item? : Declaration → Option β}
    {space : Declaration.Space}
    (h : ∀ x ∈ ds, ∀ n, x.key = (space, n) ↔ (item? x).map nameOf = some n)
    (keys : (ds.map Declaration.key).Nodup) (n : String) (v : β) :
    (ds.filterMap item?).find? (fun i => nameOf i == n) = some v ↔
      (∃ x ∈ ds, item? x = some v) ∧ nameOf v = n := by
  have names : ((ds.filterMap item?).map nameOf).Nodup := by
    -- the names of a space are those of its keys, and these are different
    have inSpace : (ds.filterMap item?).map nameOf =
        (ds.map Declaration.key).filterMap fun k => if k.1 = space then some k.2 else none := by
      rw [List.map_filterMap, List.filterMap_map]
      refine List.filterMap_congr fun x hx => Option.ext fun n => ?_
      rw [← h x hx n, Function.comp_apply]
      rcases x.key with ⟨space', n'⟩
      simp
    rw [inSpace]
    refine keys.filterMap fun k k' n hk hk' => ?_
    simp only [Option.mem_def, Option.ite_none_right_eq_some, Option.some.injEq] at hk hk'
    exact Prod.ext (hk.1.trans hk'.1.symm) (hk.2.trans hk'.2.symm)
  rw [find?_name_iff names, List.mem_filterMap]

end Names

structure Exact (p : Program) (d : Declarations) : Prop where
  acls : ∀ n v, d.acl? n = some v ↔
    ∃ a, .acl a ∈ p.declarations ∧ a.name = n ∧ Acl.ofDeclaration a = .ok v
  backends : ∀ n v, d.backend? n = some v ↔
    (∃ b, .backend b ∈ p.declarations ∧ b.name = n ∧ v = ⟨n, .origin b⟩) ∨
    ∃ c, .director c ∈ p.declarations ∧ c.name = n ∧ v = ⟨n, .director c⟩
  tables : ∀ n t, d.table? n = some t ↔ .table t ∈ p.declarations ∧ t.name = n
  subroutines : ∀ n s, d.subroutine? n = some s ↔
    .subroutine s ∈ p.declarations ∧ s.name = n ∧ s.returns = none
  functional : ∀ n s, d.functional? n = some s ↔
    .subroutine s ∈ p.declarations ∧ s.name = n ∧ s.returns ≠ none
  penaltyboxes : ∀ n b, d.penaltybox? n = some b ↔ .penaltybox b ∈ p.declarations ∧ b.name = n
  ratecounters : ∀ n r, d.ratecounter? n = some r ↔ .ratecounter r ∈ p.declarations ∧ r.name = n
  labels : ∀ l n, (d.label? l).map Label.subroutine = some n ↔
    ∃ s, .subroutine s ∈ p.declarations ∧ s.name = n ∧ s.HasLabel l
  origin : ∀ n, d.firstOrigin = some n ↔ ∃ b, p.FirstOrigin b ∧ b.name = n
  start : ∀ v, d.defaultBackend? = some v ↔ ∃ b, p.FirstOrigin b ∧ v = ⟨b.name, .origin b⟩

section Exactly

open Declaration (key_iff key_acl)

variable {p : Program}

theorem acl?_eq_some {x : Declaration} {v : Acl} :
    x.acl? = some v ↔ ∃ a, x = .acl a ∧ Acl.ofDeclaration a = .ok v := by
  cases x with
  | acl a => cases h : Acl.ofDeclaration a <;> simp [h, Except.toOption]
  | _ => simp

theorem backend?_eq_some {x : Declaration} {v : Backend} : x.backend? = some v ↔
    (∃ b, x = .backend b ∧ v = ⟨b.name, .origin b⟩) ∨
    ∃ c, x = .director c ∧ v = ⟨c.name, .director c⟩ := by
  cases x <;> simp [eq_comm]

theorem table?_eq_some {x : Declaration} {t : TableDeclaration} :
    x.table? = some t ↔ x = .table t := by
  cases x <;> simp

theorem plain?_eq_some {x : Declaration} {s : SubroutineDeclaration} :
    x.plain? = some s ↔ x = .subroutine s ∧ s.returns = none := by
  cases x with
  | subroutine d =>
    rw [Declaration.plain?, Declaration.subroutine.injEq]
    constructor
    · intro h
      cases returns : d.returns with
      | none =>
        simp only [returns] at h
        cases h
        exact ⟨rfl, returns⟩
      | some k => simp [returns] at h
    · rintro ⟨rfl, returns⟩
      simp [returns]
  | _ => simp

theorem functional?_eq_some {x : Declaration} {s : SubroutineDeclaration} :
    x.functional? = some s ↔ x = .subroutine s ∧ s.returns ≠ none := by
  cases x with
  | subroutine d =>
    rw [Declaration.functional?, Declaration.subroutine.injEq]
    constructor
    · intro h
      cases returns : d.returns with
      | none => simp [returns] at h
      | some k =>
        simp only [returns] at h
        cases h
        exact ⟨rfl, by simp [returns]⟩
    · rintro ⟨rfl, returns⟩
      simp [Option.isSome_iff_ne_none.mpr returns]
  | _ => simp

theorem penaltybox?_eq_some {x : Declaration} {b : NamedDeclaration} :
    x.penaltybox? = some b ↔ x = .penaltybox b := by
  cases x <;> simp

theorem ratecounter?_eq_some {x : Declaration} {r : NamedDeclaration} :
    x.ratecounter? = some r ↔ x = .ratecounter r := by
  cases x <;> simp

theorem firstOrigin_ofList_iff (p : Program) (n : String) :
    (ofList p.declarations).firstOrigin = some n ↔ ∃ b, p.FirstOrigin b ∧ b.name = n := by
  show (p.declarations.filterMap Declaration.origin?).head? = some n ↔ _
  rw [List.head?_filterMap, List.findSome?_eq_some_iff]
  constructor
  · rintro ⟨before, x, after, program, named, none⟩
    cases x with
    | backend b =>
      cases named
      refine ⟨b, ⟨before, after, program, fun b' hb' => ?_⟩, rfl⟩
      cases none _ hb'
    | _ => cases named
  · rintro ⟨b, ⟨before, after, program, none⟩, rfl⟩
    refine ⟨before, _, after, program, rfl, fun x hx => ?_⟩
    cases x with
    | backend b' => exact absurd hx (none b')
    | _ => rfl

theorem defaultBackend?_ofList_iff (names : p.NamesUnique) (v : Backend) :
    (ofList p.declarations).defaultBackend? = some v ↔
    ∃ b, p.FirstOrigin b ∧ v = ⟨b.name, .origin b⟩ := by
  have found {b : BackendDeclaration} (first : p.FirstOrigin b) :
      (ofList p.declarations).backend? b.name = some ⟨b.name, .origin b⟩ := by
    obtain ⟨before, after, program, -⟩ := first
    have hb : .backend b ∈ p.declarations :=
      program ▸ List.mem_append_right before List.mem_cons_self
    exact (lookup_iff (fun x _ n => (key_iff x n).1) names b.name _).mpr ⟨⟨_, hb, rfl⟩, rfl⟩
  rw [defaultBackend?, Option.bind_eq_some_iff]
  constructor
  · rintro ⟨n, named, hv⟩
    obtain ⟨b, first, rfl⟩ := (firstOrigin_ofList_iff p n).mp named
    rw [found first] at hv
    exact ⟨b, first, (Option.some.inj hv).symm⟩
  · rintro ⟨b, first, rfl⟩
    exact ⟨b.name, (firstOrigin_ofList_iff p _).mpr ⟨b, first, rfl⟩, found first⟩

theorem label?_ofList_iff (unique : p.LabelsUnique) (l n : String) :
    ((ofList p.declarations).label? l).map Label.subroutine = some n ↔
      ∃ s, .subroutine s ∈ p.declarations ∧ s.name = n ∧ s.HasLabel l := by
  have listed (v : Label) : (ofList p.declarations).label? l = some v ↔
      v ∈ p.declarations.flatMap Declaration.labels ∧ v.name = l :=
    find?_name_iff ((labels_nodup_iff p).mpr unique) l v
  rw [Option.map_eq_some_iff]
  constructor
  · rintro ⟨v, hv, rfl⟩
    obtain ⟨stands, rfl⟩ := (listed v).mp hv
    obtain ⟨x, hx, own⟩ := List.mem_flatMap.mp stands
    cases x with
    | subroutine s =>
      obtain ⟨l, hl, rfl⟩ := List.mem_map.mp own
      exact ⟨s, hx, rfl, mem_labelsOfAll_iff.mp hl⟩
    | _ => cases own
  · rintro ⟨s, hs, rfl, has⟩
    refine ⟨⟨l, s.name⟩, (listed _).mpr ⟨List.mem_flatMap.mpr ⟨_, hs, ?_⟩, rfl⟩, rfl⟩
    exact List.mem_map.mpr ⟨l, mem_labelsOfAll_iff.mpr has, rfl⟩

theorem exact_ofList (valid : ∀ x ∈ p.declarations, x.Valid) (names : p.NamesUnique)
    (labels : p.LabelsUnique) : Exact p (ofList p.declarations) where
  acls n v := by
    refine (lookup_iff (fun x hx n => key_acl (valid x hx)) names n v).trans ?_
    simp only [acl?_eq_some]
    constructor
    · rintro ⟨⟨x, hx, a, rfl, built⟩, rfl⟩
      exact ⟨a, hx, (Acl.ofDeclaration_eq_ok_iff.mp built).1.symm, built⟩
    · rintro ⟨a, ha, rfl, built⟩
      exact ⟨⟨_, ha, a, rfl, built⟩, (Acl.ofDeclaration_eq_ok_iff.mp built).1⟩
  backends n v := by
    refine (lookup_iff (fun x _ n => (key_iff x n).1) names n v).trans ?_
    simp only [backend?_eq_some]
    constructor
    · rintro ⟨⟨x, hx, ⟨b, rfl, rfl⟩ | ⟨c, rfl, rfl⟩⟩, rfl⟩
      · exact .inl ⟨b, hx, rfl, rfl⟩
      · exact .inr ⟨c, hx, rfl, rfl⟩
    · rintro (⟨b, hb, rfl, rfl⟩ | ⟨c, hc, rfl, rfl⟩)
      · exact ⟨⟨_, hb, .inl ⟨b, rfl, rfl⟩⟩, rfl⟩
      · exact ⟨⟨_, hc, .inr ⟨c, rfl, rfl⟩⟩, rfl⟩
  tables n t :=
    (lookup_iff (fun x _ n => (key_iff x n).2.1) names n t).trans
      (by simp only [table?_eq_some, exists_eq_right])
  subroutines n s := by
    refine (lookup_iff (fun x _ n => (key_iff x n).2.2.1) names n s).trans ?_
    simp only [plain?_eq_some]
    constructor
    · rintro ⟨⟨_, hs, rfl, returns⟩, named⟩
      exact ⟨hs, named, returns⟩
    · rintro ⟨hs, named, returns⟩
      exact ⟨⟨_, hs, rfl, returns⟩, named⟩
  functional n s := by
    refine (lookup_iff (fun x _ n => (key_iff x n).2.2.2.1) names n s).trans ?_
    simp only [functional?_eq_some]
    constructor
    · rintro ⟨⟨_, hs, rfl, returns⟩, named⟩
      exact ⟨hs, named, returns⟩
    · rintro ⟨hs, named, returns⟩
      exact ⟨⟨_, hs, rfl, returns⟩, named⟩
  penaltyboxes n b :=
    (lookup_iff (fun x _ n => (key_iff x n).2.2.2.2.1) names n b).trans
      (by simp only [penaltybox?_eq_some, exists_eq_right])
  ratecounters n r :=
    (lookup_iff (fun x _ n => (key_iff x n).2.2.2.2.2) names n r).trans
      (by simp only [ratecounter?_eq_some, exists_eq_right])
  labels := label?_ofList_iff labels
  origin := firstOrigin_ofList_iff p
  start := defaultBackend?_ofList_iff names

/-- A program loads exactly if its access lists are valid, its names are different in each space,
and its labels are different in the whole program. Then every name leads to what is declared under
it, and the backend to start with is the first origin. -/
theorem load_exact (p : Program) :
    ((∃ d, load p = .ok d) ↔ (∀ x ∈ p.declarations, x.Valid) ∧ p.NamesUnique ∧ p.LabelsUnique) ∧
      ∀ d, load p = .ok d → Exact p d := by
  have loads (d : Declarations) := foldlM_add_iff (d := d) p.declarations
  simp only [labels_nodup_iff] at loads
  constructor
  · constructor
    · rintro ⟨d, h⟩
      obtain ⟨valid, names, labels, -⟩ := (loads d).mp h
      exact ⟨valid, names, labels⟩
    · rintro ⟨valid, names, labels⟩
      exact ⟨_, (loads _).mpr ⟨valid, names, labels, rfl⟩⟩
  · intro d h
    obtain ⟨valid, names, labels, rfl⟩ := (loads d).mp h
    exact exact_ofList valid names labels

def mixed (label : String) : Program := ⟨[
  .director ⟨.unknown, "pool", "random", []⟩,
  .backend ⟨.unknown, "delta", []⟩,
  .acl ⟨.unknown, "pool", [⟨false, "10.0.0.0", some 8⟩]⟩,
  .subroutine ⟨.unknown, "common", none, [.block .unknown [
    .switch .unknown (.string .unknown "a") [.mk .unknown none [.label .unknown "inner"] false]
      none]]⟩,
  .subroutine ⟨.unknown, "common", some .string, [.label .unknown label]⟩]⟩

def mixedDeclarations : Declarations := ofList (mixed "outer").declarations

theorem load_exact_mixed :
    load (mixed "outer") = .ok mixedDeclarations ∧ (mixed "outer").LabelsUnique ∧
      mixedDeclarations.defaultBackend? = some ⟨"delta", .origin ⟨.unknown, "delta", []⟩⟩ ∧
      (mixedDeclarations.label? "inner").map Label.subroutine = some "common" ∧
      ¬ ∃ d, load (mixed "inner") = .ok d := by
  have loaded : load (mixed "outer") = .ok mixedDeclarations := rfl
  obtain ⟨loads, exactly⟩ := load_exact (mixed "outer")
  have known := exactly mixedDeclarations loaded
  obtain ⟨-, -, labels⟩ := loads.mp ⟨_, loaded⟩
  have inner : SubroutineDeclaration.HasLabel ⟨.unknown, "common", none, [.block .unknown [
      .switch .unknown (.string .unknown "a") [.mk .unknown none [.label .unknown "inner"] false]
        none]]⟩ "inner" :=
    ⟨_, List.mem_cons_self, _,
      .inside (i := 0) (j := 0) rfl rfl (.inside (i := 0) (j := 0) rfl rfl (.here _))⟩
  refine ⟨loaded, labels, (known.start _).mpr ⟨_, ⟨[_], _, rfl, by simp⟩, rfl⟩,
    (known.labels _ _).mpr ⟨_, ?_, rfl, inner⟩, fun h => ?_⟩
  · exact List.mem_of_getElem? (i := 3) rfl
  · obtain ⟨-, -, unique⟩ := (load_exact (mixed "inner")).1.mp h
    have first : (mixed "inner").LabelAt "inner" (3, 0, [(0, 0), (0, 0)]) :=
      ⟨_, _, rfl, rfl, .inside rfl rfl (.inside rfl rfl (.here _))⟩
    have second : (mixed "inner").LabelAt "inner" (4, 0, []) := ⟨_, _, rfl, rfl, .here _⟩
    cases unique _ _ _ first second

end Exactly

end Declarations

end EdgeCache
