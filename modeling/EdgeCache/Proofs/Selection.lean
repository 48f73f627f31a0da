import EdgeCache.Proofs.Permitted
import EdgeCache.Proofs.Ring

/-! What picking a member of a director comes to. The healthy members and the quorum decide whether
there is a choice at all, in the same way for all policies, and only a healthy member is ever
picked. -/

namespace EdgeCache

namespace Generator

theorem word_lt (w : UInt64) : w.toNat < Word.count := w.toNat_lt

theorem quotient_lt (w : UInt64) {n : Nat} (hn : 0 < n) : w.toNat * n / Word.count < n := by
  rw [Nat.div_lt_iff_lt_mul (by decide), Nat.mul_comm n]
  exact Nat.mul_lt_mul_of_pos_right (word_lt w) hn

theorem redraw_lt {n threshold product : Nat} (hn : 0 < n) (hp : product / Word.count < n)
    (fuel : Nat) (g : Generator) : (redraw n threshold fuel product g).1 < n := by
  induction fuel generalizing product g with
  | zero => exact hp
  | succ fuel ih =>
    unfold redraw
    split
    · exact ih (quotient_lt _ hn) _
    · exact hp

theorem below_lt (g : Generator) {n : Nat} (hn : 0 < n) : (g.below n).1 < n := by
  have first : g.next.1.toNat * n / Word.count < n := quotient_lt _ hn
  unfold below
  dsimp only
  split
  · exact redraw_lt hn first _ _
  · exact first

end Generator

namespace Director

variable {v w : Director} {d : Declarations} {h : Health}

theorem memberOf_weight {policy : Policy} {token : Token} {fields : List Property} {m : Member}
    (hm : memberOf policy d token fields = .ok m) (hp : policy ≠ .ring) : 0 < m.weight := by
  obtain ⟨draft, -, hm⟩ := bind_eq_ok hm
  split at hm
  · cases hm
  · rw [if_neg hp] at hm
    by_cases zero : draft.weight = 0
    · rw [if_pos zero] at hm
      cases hm
    rw [if_neg zero] at hm
    by_cases negative : draft.weight < 0
    · rw [if_pos negative] at hm
      cases hm
    rw [if_neg negative] at hm
    cases hm
    show 0 < draft.weight
    omega

theorem setting_eq_ok {p : Property} (hw : v.setting p = .ok w) :
    w.policy = v.policy ∧ w.members = v.members := by
  unfold setting at hw
  split at hw
  · -- the quorum, which the fallback policy refuses
    by_cases hf : v.policy = .fallback
    · rw [if_pos hf] at hw
      cases hw
    · rw [if_neg hf] at hw
      obtain ⟨n, -, hw⟩ := bind_eq_ok hw
      cases hw
      exact ⟨rfl, rfl⟩
  · obtain ⟨_, -, hw⟩ := bind_eq_ok hw
    obtain ⟨n, -, hw⟩ := bind_eq_ok hw
    cases hw
    exact ⟨rfl, rfl⟩
  · obtain ⟨_, -, hw⟩ := bind_eq_ok hw
    dsimp only at hw
    split at hw <;> cases hw
    exact ⟨rfl, rfl⟩
  · obtain ⟨_, -, hw⟩ := bind_eq_ok hw
    obtain ⟨n, -, hw⟩ := bind_eq_ok hw
    split at hw <;> cases hw
    exact ⟨rfl, rfl⟩
  · obtain ⟨_, -, hw⟩ := bind_eq_ok hw
    obtain ⟨n, -, hw⟩ := bind_eq_ok hw
    split at hw
    · cases hw
    · cases hw
      exact ⟨rfl, rfl⟩
  · cases hw

structure Checked (v : Director) : Prop where
  members : v.members ≠ []
  weight : v.policy ≠ .ring → ∀ m ∈ v.members, 0 < m.weight

theorem add_weight {p : DirectorProperty} (hw : v.add d p = .ok w)
    (hv : v.policy ≠ .ring → ∀ m ∈ v.members, 0 < m.weight) :
    w.policy ≠ .ring → ∀ m ∈ w.members, 0 < m.weight := by
  cases p with
  | field p =>
    obtain ⟨policy, members⟩ := setting_eq_ok hw
    rwa [policy, members]
  | backend token fields =>
    obtain ⟨m, hm, hw⟩ := bind_eq_ok hw
    cases hw
    intro hp n hn
    rcases List.mem_append.mp hn with old | new
    · exact hv hp n old
    · cases List.mem_singleton.mp new
      exact memberOf_weight hm hp

theorem ofDeclaration_checked {decl : DirectorDeclaration} (hv : ofDeclaration decl d = .ok v) :
    v.Checked := by
  unfold ofDeclaration at hv
  split at hv
  · cases hv
  · obtain ⟨w, hw, hv⟩ := bind_eq_ok hv
    have weight :=
      foldlM_keeps (P := fun w : Director => w.policy ≠ .ring → ∀ m ∈ w.members, 0 < m.weight)
        (fun _ _ _ _ added h => add_weight added h) hw fun _ _ hm => nomatch hm
    by_cases none : w.members.isEmpty = true
    · rw [if_pos none] at hv
      cases hv
    · rw [if_neg none] at hv
      cases hv
      exact ⟨by simpa using none, weight⟩

section Lottery

theorem mem_lotteryFrom {m : Member} {ms : List Member} {room : Nat} (h : m ∈ lotteryFrom room ms) :
    m ∈ ms := by
  induction ms generalizing room with
  | nil => cases h
  | cons n ms ih =>
    rcases List.mem_append.mp h with here | later
    · rw [(List.mem_replicate.mp here).2]
      exact List.mem_cons_self ..
    · exact List.mem_cons_of_mem n (ih later)

theorem lotteryFrom_ne_nil {ms : List Member} {room : Nat} (hr : 0 < room) (hms : ms ≠ [])
    (hw : ∀ m ∈ ms, 0 < m.weight) : lotteryFrom room ms ≠ [] := by
  cases ms with
  | nil => exact absurd rfl hms
  | cons m ms =>
    have weight := hw m (List.mem_cons_self ..)
    have count : min m.weight.toNat room ≠ 0 := by omega
    intro empty
    have slots := (List.append_eq_nil_iff.mp empty).1
    exact count (by simpa using congrArg List.length slots)

theorem healthy_weight (hv : v.Checked) (hp : v.policy ≠ .ring) : ∀ m ∈ v.healthy h, 0 < m.weight :=
  fun m hm => hv.weight hp m (List.mem_filter.mp hm).1

theorem lottery_isEmpty (hv : v.Checked) (hp : v.policy ≠ .ring) :
    (v.lottery h).isEmpty = (v.healthy h).isEmpty := by
  unfold lottery
  cases hu : v.healthy h with
  | nil => rfl
  | cons m ms =>
    have slots : lotteryFrom lotterySlots (m :: ms) ≠ [] :=
      lotteryFrom_ne_nil (by decide) (List.cons_ne_nil m ms) (hu ▸ healthy_weight hv hp)
    simpa using slots

theorem tryRandom_missed (hl : (v.lottery h).isEmpty = false) (hq : v.quorumReached h = false)
    (tries : Nat) (g : Generator) :
    (v.tryRandom h tries g).1 = .error (.quorumNotReached v.name) := by
  induction tries with
  | zero => rfl
  | succ tries ih =>
    rw [tryRandom, hl, hq]
    exact ih

theorem holder_of_lt {pool : List Member} {slot : Nat} (hs : slot < pool.length) :
    v.holder pool slot = .ok pool[slot].backend := by
  rw [holder, List.getElem?_eq_getElem hs]

theorem drawFrom_eq_ok {pool : List Member} (hp : pool ≠ []) (g : Generator) :
    ∃ m ∈ pool, (v.drawFrom pool g).1 = .ok m.backend :=
  have slot : (g.below pool.length).1 < pool.length := g.below_lt (List.length_pos_iff.mpr hp)
  ⟨pool[(g.below pool.length).1], List.getElem_mem slot, holder_of_lt slot⟩

theorem tryRandom_reached (hl : (v.lottery h).isEmpty = false) (hq : v.quorumReached h = true)
    {tries : Nat} (ht : 0 < tries) (g : Generator) :
    ∃ m ∈ v.healthy h, (v.tryRandom h tries g).1 = .ok m.backend := by
  obtain ⟨tries, rfl⟩ := Nat.exists_eq_succ_of_ne_zero (Nat.ne_of_gt ht)
  have pool : v.lottery h ≠ [] := by simpa using hl
  obtain ⟨m, hm, drawn⟩ := drawFrom_eq_ok (v := v) pool g
  refine ⟨m, mem_lotteryFrom hm, ?_⟩
  rw [tryRandom, hl, hq]
  simpa only [Bool.false_eq_true, Bool.not_true, if_false] using drawn

theorem attempts_pos (hv : v.members ≠ []) : 0 < v.attempts := by
  unfold attempts
  split
  · omega
  · exact List.length_pos_iff.mpr hv

end Lottery

def First (v : Director) (p : Member → Prop) (m : Member) : Prop :=
  ∃ before after, v.members = before ++ m :: after ∧ p m ∧ ∀ b ∈ before, ¬ p b

theorem first_of_find? {p : Member → Bool} {m : Member} (hm : v.members.find? p = some m) :
    v.First (p · = true) m := by
  obtain ⟨here, before, after, members, none⟩ := List.find?_eq_some_iff_append.mp hm
  exact ⟨before, after, members, here, fun b hb => by simpa using none b hb⟩

/-- The hash of the name of a member lies among the ten thousand places from the point of the key
on. -/
def Lands (key : String) (m : Member) : Prop :=
  let point := digestPoint 8 (Utf8.ofString key) % 10000
  let place := digestPoint 8 (Utf8.ofString m.backend.name) % 100000
  point ≤ place ∧ place < point + 10000

theorem inBucket_iff (key : String) (m : Member) :
    inBucket (digestPoint 8 (Utf8.ofString key) % hashRange) m = true ↔ Lands key m := by
  simp only [inBucket, Lands, Bool.and_eq_true, decide_eq_true_eq]
  rfl

/-- The share of healthy members, in whole percent, is below the quorum. -/
def Missed (v : Director) (h : Health) : Prop :=
  (((v.healthy h).length * 100 / v.members.length : Nat) : Int) < v.quorum

theorem quorumReached_iff (hv : v.members ≠ []) : v.quorumReached h = true ↔ ¬ v.Missed h := by
  have count : max v.members.length 1 = v.members.length :=
    Nat.max_eq_left (List.length_pos_iff.mpr hv)
  simp only [quorumReached, Missed, count, decide_eq_true_eq, Int.not_lt]

def PicksInBucket (v : Director) (h : Health) (key : String)
    (picked : Except DirectorError Backend) : Prop :=
  (∃ m, v.First (fun m => isUp h m = true ∧ Lands key m) m ∧ picked = .ok m.backend) ∨
    (∀ m ∈ v.members, isUp h m = true → ¬ Lands key m) ∧ picked = .error (.allBackendsFailed v.name)

def Picks (v : Director) (h : Health) (keys : SelectionKeys)
    (picked : Except DirectorError Backend) : Prop :=
  match v.policy with
  | .random | .ring => ∃ m ∈ v.members, isUp h m = true ∧ picked = .ok m.backend
  | .fallback => ∃ m, v.First (isUp h · = true) m ∧ picked = .ok m.backend
  | .hash => v.PicksInBucket h keys.hash picked
  | .client => v.PicksInBucket h keys.client picked

theorem Picks.healthy {keys : SelectionKeys} {picked : Except DirectorError Backend}
    (hp : v.Picks h keys picked) {b : Backend} (hb : picked = .ok b) :
    ∃ m ∈ v.members, isUp h m = true ∧ m.backend = b := by
  have first {p : Member → Prop} {m : Member} (hm : v.First p m) : m ∈ v.members ∧ p m := by
    obtain ⟨before, after, members, here, -⟩ := hm
    exact ⟨members ▸ List.mem_append_right before (List.mem_cons_self ..), here⟩
  have bucket {key : String} (hk : v.PicksInBucket h key picked) :
      ∃ m ∈ v.members, isUp h m = true ∧ m.backend = b := by
    rcases hk with ⟨m, hm, ok⟩ | ⟨-, failed⟩
    · exact ⟨m, (first hm).1, (first hm).2.1, Except.ok.inj (ok.symm.trans hb)⟩
    · cases failed.symm.trans hb
  unfold Picks at hp
  split at hp
  · obtain ⟨m, hm, up, ok⟩ := hp
    exact ⟨m, hm, up, Except.ok.inj (ok.symm.trans hb)⟩
  · obtain ⟨m, hm, up, ok⟩ := hp
    exact ⟨m, hm, up, Except.ok.inj (ok.symm.trans hb)⟩
  · obtain ⟨m, hm, ok⟩ := hp
    exact ⟨m, (first hm).1, (first hm).2, Except.ok.inj (ok.symm.trans hb)⟩
  · exact bucket hp
  · exact bucket hp

theorem pickRandom_picks (hv : v.Checked) (hp : v.policy ≠ .ring) (up : v.healthy h ≠ [])
    (hq : v.quorumReached h = true) (g : Generator) :
    ∃ m ∈ v.members, isUp h m = true ∧ (v.pickRandom h g).1 = .ok m.backend := by
  have pool : (v.lottery h).isEmpty = false := by
    rw [lottery_isEmpty hv hp]
    simpa using up
  obtain ⟨m, hm, picked⟩ := tryRandom_reached pool hq (attempts_pos hv.members) g
  exact ⟨m, (List.mem_filter.mp hm).1, (List.mem_filter.mp hm).2, picked⟩

theorem pickRing_picks (up : v.healthy h ≠ []) (key : String) :
    ∃ m ∈ v.members, isUp h m = true ∧ v.pickRing h key = .ok m.backend := by
  obtain ⟨m, hm⟩ := exists_onRing? (ring_ne_nil up) (digestPoint 4 (Utf8.ofString key) % hashRange)
  obtain ⟨p, hp⟩ := mem_of_onRing? hm
  have healthy : m ∈ v.members ∧ isUp h m = true := List.mem_filter.mp (mem_ring hp)
  exact ⟨m, healthy.1, healthy.2, pickRing_of_onRing? hm⟩

theorem pickFirst_picks (up : v.healthy h ≠ []) :
    ∃ m, v.First (isUp h · = true) m ∧ v.pickFirst h = .ok m.backend := by
  have head : (v.healthy h).head? = some ((v.healthy h).head up) := List.head?_eq_some_head up
  refine ⟨(v.healthy h).head up, first_of_find? ?_, by rw [pickFirst, head]⟩
  rw [← head, healthy, List.head?_filter]

theorem pickBucket_picks (key : String) : v.PicksInBucket h key (v.pickBucket h key) := by
  have search (p : Member → Bool) : (v.healthy h).find? p =
      v.members.find? fun m => decide (isUp h m = true ∧ p m = true) := List.find?_filter
  unfold pickBucket
  dsimp only
  split
  · rename_i m hm
    obtain ⟨before, after, members, here, none⟩ := first_of_find? (search _ ▸ hm)
    simp only [decide_eq_true_eq, inBucket_iff] at here none
    exact .inl ⟨m, ⟨before, after, members, here, none⟩, rfl⟩
  · rename_i none
    refine .inr ⟨fun m hm up lands => ?_, rfl⟩
    have beside := List.find?_eq_none.mp none m (List.mem_filter.mpr ⟨hm, up⟩)
    exact beside ((inBucket_iff key m).mpr lands)

theorem guarded_none {pick : Except DirectorError Backend} (up : v.healthy h = []) :
    v.guarded h pick = .error (.allBackendsFailed v.name) := by
  rw [guarded, up]
  rfl

theorem guarded_missed {pick : Except DirectorError Backend} (up : v.healthy h ≠ [])
    (hq : v.quorumReached h = false) : v.guarded h pick = .error (.quorumNotReached v.name) := by
  rw [guarded, if_neg (by simpa using up), hq]
  rfl

theorem guarded_reached {pick : Except DirectorError Backend} (up : v.healthy h ≠ [])
    (hq : v.quorumReached h = true) : v.guarded h pick = pick := by
  rw [guarded, if_neg (by simpa using up), hq]
  rfl

theorem pickRandom_none (hv : v.Checked) (hp : v.policy ≠ .ring) (up : v.healthy h = [])
    (g : Generator) :
    (v.pickRandom h g).1 = .error (.allBackendsFailed v.name) := by
  have pool : (v.lottery h).isEmpty = true := by
    rw [lottery_isEmpty hv hp, up]
    rfl
  obtain ⟨tries, ht⟩ := Nat.exists_eq_succ_of_ne_zero (Nat.ne_of_gt (attempts_pos hv.members))
  rw [pickRandom, ht, tryRandom, pool]
  rfl

theorem pickRandom_missed (hv : v.Checked) (hp : v.policy ≠ .ring) (up : v.healthy h ≠ [])
    (hq : v.quorumReached h = false) (g : Generator) :
    (v.pickRandom h g).1 = .error (.quorumNotReached v.name) := by
  have pool : (v.lottery h).isEmpty = false := by
    rw [lottery_isEmpty hv hp]
    simpa using up
  exact tryRandom_missed pool hq v.attempts g

section Select

variable (hv : v.Checked) (keys : SelectionKeys) (g : Generator)
include hv

theorem select_none (up : v.healthy h = []) :
    (v.select h keys g).1 = .error (.allBackendsFailed v.name) := by
  unfold select
  split
  · exact pickRandom_none hv (by simp [*]) up g
  · show v.pickFirst h = _
    rw [pickFirst, up]
    rfl
  · exact guarded_none up
  · exact guarded_none up
  · exact guarded_none up

theorem select_missed (up : v.healthy h ≠ []) (hp : v.policy ≠ .fallback) (hq : v.Missed h) :
    (v.select h keys g).1 = .error (.quorumNotReached v.name) := by
  have missed : v.quorumReached h = false := by
    rw [← Bool.not_eq_true, quorumReached_iff hv.members, Classical.not_not]
    exact hq
  unfold select
  split
  · exact pickRandom_missed hv (by simp [*]) up missed g
  · contradiction
  · exact guarded_missed up missed
  · exact guarded_missed up missed
  · exact guarded_missed up missed

theorem select_picks (up : v.healthy h ≠ []) (hq : v.policy ≠ .fallback → ¬ v.Missed h) :
    v.Picks h keys (v.select h keys g).1 := by
  have reached (hp : v.policy ≠ .fallback) : v.quorumReached h = true :=
    (quorumReached_iff hv.members).mpr (hq hp)
  unfold select Picks
  cases hp : v.policy with
  | random => exact pickRandom_picks hv (by simp [hp]) up (reached (by simp [hp])) g
  | fallback => exact pickFirst_picks up
  | hash =>
    dsimp only
    rw [guarded_reached up (reached (by simp [hp]))]
    exact pickBucket_picks keys.hash
  | client =>
    dsimp only
    rw [guarded_reached up (reached (by simp [hp]))]
    exact pickBucket_picks keys.client
  | ring =>
    dsimp only
    rw [guarded_reached up (reached (by simp [hp]))]
    exact pickRing_picks up _

end Select

/-- Without a healthy member the pick fails, then without the quorum, and otherwise it is up to the
policy. -/
theorem select_outcome {decl : DirectorDeclaration} (hv : ofDeclaration decl d = .ok v) (h : Health)
    (keys : SelectionKeys) (g : Generator) :
    let up := (v.members.filter (isUp h)).length
    let missed := v.policy ≠ .fallback ∧ ((up * 100 / v.members.length : Nat) : Int) < v.quorum
    let picked := (v.select h keys g).1
    (up = 0 → picked = .error (.allBackendsFailed v.name)) ∧
      (up ≠ 0 → missed → picked = .error (.quorumNotReached v.name)) ∧
      (up ≠ 0 → ¬ missed → v.Picks h keys picked) ∧
      ∀ b, picked = .ok b → ∃ m ∈ v.members, isUp h m = true ∧ m.backend = b := by
  intro up missed picked
  have checked : v.Checked := ofDeclaration_checked hv
  have some (hu : up ≠ 0) : v.healthy h ≠ [] := fun none => hu (congrArg List.length none)
  have choice (hu : up ≠ 0) (hm : ¬ missed) : v.Picks h keys picked :=
    select_picks checked keys g (some hu) fun hp hq => hm ⟨hp, hq⟩
  refine ⟨fun hu => select_none checked keys g (List.length_eq_zero_iff.mp hu),
    fun hu hm => select_missed checked keys g (some hu) hm.1 hm.2, choice, fun b hb => ?_⟩
  by_cases hu : up = 0
  · have failed : picked = .error (.allBackendsFailed v.name) :=
      select_none checked keys g (List.length_eq_zero_iff.mp hu)
    cases failed.symm.trans hb
  · by_cases hm : missed
    · cases (select_missed checked keys g (some hu) hm.1 hm.2).symm.trans hb
    · exact (choice hu hm).healthy hb

def originNamed (name : String) : Backend := ⟨name, .origin ⟨.unknown, name, []⟩⟩

def drawnMember (name : String) : DirectorProperty :=
  .backend .unknown [⟨.unknown, "backend", .ident .unknown name⟩,
    ⟨.unknown, "weight", .integer .unknown 1⟩]

def drawnPool : DirectorDeclaration :=
  ⟨.unknown, "pool", "random",
    [.field ⟨.unknown, "quorum", .integer .unknown 51⟩, drawnMember "delta", drawnMember "echo"]⟩

def drawnDirector : Director :=
  { initial "pool" .random with
    members := [⟨originNamed "delta", none, 1⟩, ⟨originNamed "echo", none, 1⟩], quorum := 51 }

def drawnOrigins : Declarations :=
  { Declarations.empty with backends := [originNamed "delta", originNamed "echo"] }

theorem select_outcome_drawn :
    let keys : SelectionKeys := ⟨"hash", "client"⟩
    ofDeclaration drawnPool drawnOrigins = .ok drawnDirector ∧
      (drawnDirector.select ⟨["echo"]⟩ keys ⟨0⟩).1 = .error (.quorumNotReached "pool") ∧
      ∃ m ∈ drawnDirector.members, (drawnDirector.select .allUp keys ⟨0⟩).1 = .ok m.backend := by
  intro keys
  have built : ofDeclaration drawnPool drawnOrigins = .ok drawnDirector := rfl
  obtain ⟨m, hm, -, picked⟩ := (select_outcome built .allUp keys ⟨0⟩).2.2.1 (by decide) (by decide)
  have missed := (select_outcome built ⟨["echo"]⟩ keys ⟨0⟩).2.1 (by decide) ⟨by decide, by decide⟩
  exact ⟨built, missed, m, hm, picked⟩

end Director

end EdgeCache
