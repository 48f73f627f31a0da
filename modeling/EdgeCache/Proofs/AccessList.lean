import EdgeCache.Acl
import EdgeCache.Proofs.Permitted
import Mathlib.Data.List.Perm.Basic

/-! Which rule of an access list decides about an address: of those whose network holds it, the last
one of the longest networks. The order of the entries matters only between rules of one network. -/

namespace EdgeCache

namespace Address

inductive Shares (count : Nat) : Address → Address → Prop
  | v4 {a b : BitVec 32} (bits : ∀ i < count, a.getMsbD i = b.getMsbD i) : Shares count
    (.v4 a) (.v4 b)
  | v6 {a b : BitVec 128} (bits : ∀ i < count, a.getMsbD i = b.getMsbD i) : Shares count
    (.v6 a) (.v6 b)

theorem lt_of_maskShift? {width count n : Nat} (h : maskShift? width count = some n) :
    n < width := by
  unfold maskShift? at h
  dsimp only at h
  split at h
  · cases h
  · cases h
    omega

theorem getMsbD_mask (width count i : Nat) :
    (mask width count).getMsbD i = decide (i < min count width) := by
  unfold mask maskShift?
  by_cases none : min count width = 0
  · simp [none]
  · simp only [none, if_false, BitVec.getMsbD_shiftLeft, BitVec.getMsbD_allOnes]
    congr 1
    apply propext
    omega

theorem and_mask_eq_iff {width : Nat} (count : Nat) (a b : BitVec width) :
    a &&& mask width count = b &&& mask width count ↔ ∀ i < count, a.getMsbD i = b.getMsbD i := by
  constructor
  · intro same i hi
    by_cases inside : i < width
    · have bit := congrArg (BitVec.getMsbD · i) same
      simpa [getMsbD_mask, Nat.lt_min, hi, inside] using bit
    · rw [BitVec.getMsbD_of_ge a i (Nat.le_of_not_lt inside),
        BitVec.getMsbD_of_ge b i (Nat.le_of_not_lt inside)]
  · intro bits
    refine BitVec.eq_of_getMsbD_eq fun i hi => ?_
    rw [BitVec.getMsbD_and, BitVec.getMsbD_and, getMsbD_mask]
    by_cases first : i < count
    · rw [bits i first]
    · have outside : ¬ i < min count width :=
        fun h => first (Nat.lt_of_lt_of_le h (Nat.min_le_left ..))
      rw [decide_eq_false outside, Bool.and_false, Bool.and_false]

theorem agree_iff (count : Nat) (a b : Address) : agree count a b = true ↔ Shares count a b := by
  unfold agree
  rw [beq_iff_eq]
  constructor
  · intro same
    cases a with
    | v4 a =>
      cases b with
      | v4 b => exact .v4 ((and_mask_eq_iff count a b).mp (v4.inj same))
      | v6 b => exact Address.noConfusion same
    | v6 a =>
      cases b with
      | v4 b => exact Address.noConfusion same
      | v6 b => exact .v6 ((and_mask_eq_iff count a b).mp (v6.inj same))
  · rintro (bits | bits)
    · exact congrArg v4 ((and_mask_eq_iff count _ _).mpr bits)
    · exact congrArg v6 ((and_mask_eq_iff count _ _).mpr bits)

theorem Shares.isV4 {count : Nat} {a b : Address} (h : Shares count a b) : a.isV4 = b.isV4 := by
  cases h <;> rfl

end Address

namespace AclRule

def Covers (r : AclRule) (a : Address) : Prop := Address.Shares r.length r.network a

theorem contains_iff {r : AclRule} {a : Address} : r.contains a = true ↔ r.Covers a :=
  Address.agree_iff ..

theorem ofEntry_length {e : AclEntry} {r : AclRule} (h : ofEntry e = .ok r) :
    r.length ≤ r.network.width := by
  unfold ofEntry at h
  split at h
  · cases h
  · dsimp only at h
    split at h
    · cases h
    · cases h
      exact Nat.le_of_not_lt ‹_›

end AclRule

namespace Acl

/-- Of the rules that cover an address, none is longer than this one, and none behind it is as
long. -/
def Decides (rules : List AclRule) (a : Address) (r : AclRule) : Prop :=
  ∃ before after, rules = before ++ r :: after ∧ r.Covers a ∧
    (∀ s ∈ before, s.Covers a → s.length ≤ r.length) ∧ ∀ s ∈ after, s.Covers a → s.length < r.length

def Consistent (rules : List AclRule) : Prop :=
  ∀ r ∈ rules, ∀ s ∈ rules, r.length = s.length →
    r.network.masked r.length = s.network.masked s.length →
    r.negated = s.negated

section Deciding

variable {rules : List AclRule} {a : Address} {r : AclRule}

theorem Decides.longest (h : Decides rules a r) : r ∈ rules ∧ r.Covers a ∧
    ∀ s ∈ rules, s.Covers a → s.length ≤ r.length := by
  obtain ⟨before, after, rfl, covers, earlier, later⟩ := h
  refine ⟨List.mem_append_right _ List.mem_cons_self, covers, fun s hs holds => ?_⟩
  rcases List.mem_append.mp hs with hs | hs
  · exact earlier s hs holds
  · rcases List.mem_cons.mp hs with rfl | hs
    · exact Nat.le_refl _
    · exact Nat.le_of_lt (later s hs holds)

theorem exists_decides (some : ∃ s ∈ rules, s.Covers a) : ∃ r, Decides rules a r := by
  induction rules with
  | nil =>
    obtain ⟨s, hs, -⟩ := some
    cases hs
  | cons s rules ih =>
    by_cases rest : ∃ t ∈ rules, t.Covers a
    · obtain ⟨r, hr⟩ := ih rest
      by_cases longer : s.Covers a ∧ r.length < s.length
      · -- the first rule is longer than all others
        refine ⟨s, [], rules, rfl, longer.1, fun _ h => (nomatch h), fun t ht holds => ?_⟩
        exact Nat.lt_of_le_of_lt (hr.longest.2.2 t ht holds) longer.2
      · obtain ⟨before, after, rfl, covers, earlier, later⟩ := hr
        refine ⟨r, s :: before, after, rfl, covers,
          List.forall_mem_cons.mpr ⟨fun holds => ?_, earlier⟩, later⟩
        exact Nat.le_of_not_lt fun long => longer ⟨holds, long⟩
    · obtain ⟨t, ht, holds⟩ := some
      rcases List.mem_cons.mp ht with rfl | ht
      · exact ⟨t, [], rules, rfl, holds, fun _ h => (nomatch h),
          fun u hu covers => absurd ⟨u, hu, covers⟩ rest⟩
      · exact absurd ⟨t, ht, holds⟩ rest

theorem foldl_prefer_of_shorter (h : ∀ s ∈ rules, s.length < r.length) :
    rules.foldl prefer (some r) = some r := by
  induction rules with
  | nil => rfl
  | cons s rules ih =>
    obtain ⟨shorter, rest⟩ := List.forall_mem_cons.mp h
    have stays : prefer (some r) s = some r := by
      simp only [prefer, Nat.not_le.mpr shorter, if_false]
    rw [List.foldl_cons, stays, ih rest]

theorem foldl_prefer_le {n : Nat} {best : Option AclRule} (hb : ∀ b ∈ best, b.length ≤ n)
    (h : ∀ s ∈ rules, s.length ≤ n) : ∀ b ∈ rules.foldl prefer best, b.length ≤ n := by
  induction rules generalizing best with
  | nil => exact hb
  | cons s rules ih =>
    obtain ⟨first, rest⟩ := List.forall_mem_cons.mp h
    refine ih (fun b hb' => ?_) rest
    unfold prefer at hb'
    split at hb'
    · split at hb'
      · cases hb'
        exact first
      · exact hb b hb'
    · cases hb'
      exact first

theorem deciding?_of_decides {acl : Acl} (h : Decides acl.rules a r) :
    acl.deciding? a = some r := by
  obtain ⟨before, after, split, covers, earlier, later⟩ := h
  have held (rules : List AclRule) (p : AclRule → Prop) (hp : ∀ s ∈ rules, s.Covers a → p s) :
      ∀ s ∈ rules.filter fun s => s.contains a, p s := fun s hs =>
    have ⟨listed, holds⟩ := List.mem_filter.mp hs
    hp s listed (AclRule.contains_iff.mp holds)
  have empty : ∀ b ∈ (none : Option AclRule), b.length ≤ r.length := fun _ h => nomatch h
  have best := foldl_prefer_le empty (held before _ earlier)
  have preferred : prefer ((before.filter fun s => s.contains a).foldl prefer none) r = some r := by
    generalize (before.filter fun s => s.contains a).foldl prefer none = b at best
    cases b with
    | none => rfl
    | some b => simp only [prefer, best b rfl, if_true]
  have kept : ((r :: after).filter fun s => s.contains a) = r :: after.filter fun s =>
      s.contains a :=
    List.filter_cons_of_pos (AclRule.contains_iff.mpr covers)
  unfold deciding?
  rw [split, List.filter_append, kept, List.foldl_append, List.foldl_cons, preferred,
    foldl_prefer_of_shorter (held after _ later)]

theorem deciding?_eq_none {acl : Acl} (h : ∀ s ∈ acl.rules, ¬ s.Covers a) :
    acl.deciding? a = none := by
  have none : (acl.rules.filter fun s => s.contains a) = [] :=
    List.filter_eq_nil_iff.mpr fun s hs holds => h s hs (AclRule.contains_iff.mp holds)
  unfold deciding?
  rw [none, List.foldl_nil]

theorem deciding?_eq_some_iff {acl : Acl} : acl.deciding? a = some r ↔ Decides acl.rules a r := by
  refine ⟨fun h => ?_, deciding?_of_decides⟩
  by_cases covered : ∃ s ∈ acl.rules, s.Covers a
  · obtain ⟨r', decides⟩ := exists_decides covered
    cases h.symm.trans (deciding?_of_decides decides)
    exact decides
  · have none := deciding?_eq_none fun s hs holds => covered ⟨s, hs, holds⟩
    cases none.symm.trans h

theorem matches?_iff {acl : Acl} :
    acl.matches? a = true ↔ ∃ r, Decides acl.rules a r ∧ r.negated = false := by
  simp only [← deciding?_eq_some_iff, matches?]
  cases acl.deciding? a with
  | none => simp
  | some r => simp

end Deciding

section Order

variable {rules rules' : List AclRule} {a : Address} {r r' : AclRule}

theorem Decides.negated_eq (same : Consistent rules) (perm : rules'.Perm rules)
    (h : Decides rules a r) (h' : Decides rules' a r') : r'.negated = r.negated := by
  obtain ⟨listed, covers, longest⟩ := h.longest
  obtain ⟨listed', covers', longest'⟩ := h'.longest
  have equal : r'.length = r.length := Nat.le_antisymm
    (longest r' (perm.mem_iff.mp listed') covers') (longest' r (perm.mem_iff.mpr listed) covers)
  have network {s : AclRule} (hs : s.Covers a) : s.network.masked s.length = a.masked s.length :=
    beq_iff_eq.mp (AclRule.contains_iff.mpr hs)
  refine same r' (perm.mem_iff.mp listed') r listed equal ?_
  rw [network covers', network covers, equal]

theorem matches?_perm {acl acl' : Acl} (same : Consistent acl.rules)
    (perm : acl'.rules.Perm acl.rules) (a : Address) :
    acl'.matches? a = acl.matches? a := by
  by_cases covered : ∃ s ∈ acl.rules, s.Covers a
  · obtain ⟨s, hs, holds⟩ := covered
    obtain ⟨r, decides⟩ := exists_decides ⟨s, hs, holds⟩
    obtain ⟨r', decides'⟩ := exists_decides ⟨s, perm.mem_iff.mpr hs, holds⟩
    simp only [matches?, deciding?_of_decides decides, deciding?_of_decides decides',
      decides.negated_eq same perm decides']
  · have none (s : AclRule) (hs : s ∈ acl.rules) : ¬ s.Covers a :=
      fun holds => covered ⟨s, hs, holds⟩
    have none' (s : AclRule) (hs : s ∈ acl'.rules) : ¬ s.Covers a := none s (perm.mem_iff.mp hs)
    simp only [matches?, deciding?_eq_none none, deciding?_eq_none none']

end Order

section Entries

variable {d d' : AclDeclaration} {acl : Acl}

theorem mapM_eq_ok_iff {α β ε : Type} {f : α → Except ε β} {as : List α} {bs : List β} :
    as.mapM f = .ok bs ↔ List.Forall₂ (fun a b => f a = .ok b) as bs := by
  induction as generalizing bs with
  | nil => simp [List.mapM_nil, pure, Except.pure, eq_comm]
  | cons a as ih =>
    rw [List.mapM_cons, List.forall₂_cons_left_iff]
    constructor
    · intro h
      obtain ⟨b, hb, h⟩ := bind_eq_ok h
      obtain ⟨bs, hbs, h⟩ := bind_eq_ok h
      cases h
      exact ⟨b, bs, hb, ih.mp hbs, rfl⟩
    · rintro ⟨b, bs, hb, hbs, rfl⟩
      rw [hb, ih.mpr hbs]
      rfl

theorem ofDeclaration_eq_ok_iff : ofDeclaration d = .ok acl ↔
    acl.name = d.name ∧ List.Forall₂ (fun e r => AclRule.ofEntry e = .ok r) d.entries
      acl.rules := by
  rw [← mapM_eq_ok_iff]
  constructor
  · intro h
    obtain ⟨rules, hr, h⟩ := bind_eq_ok h
    cases h
    exact ⟨rfl, hr⟩
  · rintro ⟨name, hr⟩
    unfold ofDeclaration
    rw [hr, ← name]
    rfl

theorem ofDeclaration_perm (built : ofDeclaration d = .ok acl) (perm : d'.entries.Perm d.entries) :
    ∃ acl', ofDeclaration d' = .ok acl' ∧ acl'.rules.Perm acl.rules := by
  obtain ⟨-, read⟩ := ofDeclaration_eq_ok_iff.mp built
  obtain ⟨rules, read', perm'⟩ := List.perm_comp_forall₂ perm read
  exact ⟨⟨d'.name, rules⟩, ofDeclaration_eq_ok_iff.mpr ⟨rfl, read'⟩, perm'⟩

end Entries

/-- Of the rules that cover an address the last one of the longest decides, and the order of the
entries matters only if two rules of one network contradict each other. -/
theorem longest_prefix_decides {d : AclDeclaration} {acl : Acl}
    (built : ofDeclaration d = .ok acl) :
    List.Forall₂ (fun e r => AclRule.ofEntry e = .ok r) d.entries acl.rules ∧
    (∀ a, acl.matches? a = true ↔ ∃ r, Decides acl.rules a r ∧ r.negated = false) ∧
    (∀ r ∈ acl.rules, ∀ a : Address, r.network.isV4 ≠ a.isV4 → r.contains a = false) ∧
    (Consistent acl.rules → ∀ d' : AclDeclaration, d'.entries.Perm d.entries →
      ∃ acl', ofDeclaration d' = .ok acl' ∧ ∀ a, acl'.matches? a = acl.matches? a) ∧
    ∀ r ∈ acl.rules, r.length ≤ r.network.width ∧
      ∀ n, Address.maskShift? r.network.width r.length = some n → n < r.network.width := by
  obtain ⟨-, read⟩ := ofDeclaration_eq_ok_iff.mp built
  refine ⟨read, fun a => matches?_iff, fun r _ a apart => ?_, fun same d' perm => ?_,
    fun r hr => ?_⟩
  · rw [← Bool.not_eq_true, AclRule.contains_iff]
    exact fun covers => apart (Address.Shares.isV4 covers)
  · obtain ⟨acl', built', reordered⟩ := ofDeclaration_perm built perm
    exact ⟨acl', built', matches?_perm same reordered⟩
  · obtain ⟨i, hi, rfl⟩ := List.getElem_of_mem hr
    have entry := read.get (read.length_eq ▸ hi) hi
    exact ⟨AclRule.ofEntry_length entry, fun n => Address.lt_of_maskShift?⟩

def nestedEntries : AclDeclaration :=
  ⟨.unknown, "nested", [
    ⟨false, "0.0.0.0", some 0⟩, ⟨true, "10.0.0.0", some 8⟩, ⟨false, "10.1.2.3", none⟩,
    ⟨true, "::", some 0⟩, ⟨false, "2001:db8::", some 32⟩, ⟨true, "2001:db8::1", some 128⟩]⟩

def nestedRules : Acl :=
  ⟨"nested", [
    ⟨false, .v4 0, 0⟩, ⟨true, .v4 0x0a000000, 8⟩, ⟨false, .v4 0x0a010203, 32⟩,
    ⟨true, .v6 0, 0⟩, ⟨false, .v6 0x20010db8000000000000000000000000, 32⟩,
    ⟨true, .v6 0x20010db8000000000000000000000001, 128⟩]⟩

theorem longest_prefix_decides_nested :
    ofDeclaration nestedEntries = .ok nestedRules ∧
    (∃ r, Decides nestedRules.rules (.v4 0x0a010203) r ∧ r.negated = false) ∧
    (¬ ∃ r, Decides nestedRules.rules (.v4 0x0a010204) r ∧ r.negated = false) ∧
    (∃ r, Decides nestedRules.rules (.v6 0x20010db8000000000000000000000002) r ∧
      r.negated = false) ∧
    ∃ acl, ofDeclaration { nestedEntries with entries := nestedEntries.entries.reverse } = .ok acl ∧
      ∀ a, acl.matches? a = nestedRules.matches? a := by
  have built : ofDeclaration nestedEntries = .ok nestedRules := rfl
  obtain ⟨-, decided, -, reordered, -⟩ := longest_prefix_decides built
  have consistent : Consistent nestedRules.rules := by
    unfold Consistent
    decide
  refine ⟨built, (decided _).mp (by decide), fun h => ?_, (decided _).mp (by decide), ?_⟩
  · exact absurd ((decided _).mpr h) (by decide)
  · exact reordered consistent _ (List.reverse_perm _)

end Acl
end EdgeCache
