import EdgeCache.Proofs.Selection

/-! Who holds the slots of a lottery. They go to the healthy members in the order of the
declaration, to each as many as its weight says, until a thousand are given away. -/

namespace EdgeCache.Director

def weightUp (h : Health) : List Member → Int
  | [] => 0
  | m :: ms => (if isUp h m then m.weight else 0) + weightUp h ms

/-- For each slot the position of the member that gets it; the first of the members has position
`i`. -/
def ownersFrom (h : Health) : Nat → Nat → List Member → List Nat
  | _, _, [] => []
  | room, i, m :: ms =>
    let count := if isUp h m then min m.weight.toNat room else 0
    List.replicate count i ++ ownersFrom h (room - count) (i + 1) ms

section Owners

variable {h : Health} {m : Member} {ms : List Member}

theorem weightUp_nonneg (hw : ∀ m ∈ ms, 0 < m.weight) : 0 ≤ weightUp h ms := by
  induction ms with
  | nil => exact Int.le_refl 0
  | cons m ms ih =>
    have rest := ih fun n hn => hw n (List.mem_cons_of_mem m hn)
    have weight := hw m (List.mem_cons_self ..)
    rw [weightUp]
    split <;> omega

theorem lotteryFrom_owned (h : Health) (room : Nat) (before ms : List Member) :
    (lotteryFrom room (ms.filter (isUp h))).map some =
      (ownersFrom h room before.length ms).map ((before ++ ms)[·]?) := by
  induction ms generalizing room before with
  | nil => rfl
  | cons m ms ih =>
    have here : (before ++ m :: ms)[before.length]? = some m := by simp
    have later := ih (room - if isUp h m then min m.weight.toNat room else 0) (before ++ [m])
    rw [List.append_assoc, List.singleton_append, List.length_append, List.length_singleton]
      at later
    rw [ownersFrom, List.map_append, List.map_replicate, here, ← later]
    by_cases up : isUp h m = true
    · rw [List.filter_cons_of_pos up, if_pos up, lotteryFrom, List.map_append, List.map_replicate]
    · rw [List.filter_cons_of_neg up, if_neg up]
      rfl

theorem le_of_mem_ownersFrom {room i j : Nat} (hj : j ∈ ownersFrom h room i ms) : i ≤ j := by
  induction ms generalizing room i with
  | nil => cases hj
  | cons m ms ih =>
    rcases List.mem_append.mp hj with here | later
    · exact Nat.le_of_eq (List.mem_replicate.mp here).2.symm
    · exact Nat.le_of_succ_le (ih later)

theorem ownersFrom_pairwise (h : Health) (room i : Nat) (ms : List Member) :
    (ownersFrom h room i ms).Pairwise (· ≤ ·) := by
  induction ms generalizing room i with
  | nil => exact .nil
  | cons m ms ih =>
    refine List.pairwise_append.mpr ⟨List.pairwise_replicate.mpr (.inr (Nat.le_refl i)), ih _ _,
      fun j hj k hk => ?_⟩
    rw [(List.mem_replicate.mp hj).2]
    exact Nat.le_of_succ_le (le_of_mem_ownersFrom hk)

theorem length_ownersFrom (hw : ∀ m ∈ ms, 0 < m.weight) (room i : Nat) :
    ((ownersFrom h room i ms).length : Int) = min (room : Int) (weightUp h ms) := by
  induction ms generalizing room i with
  | nil => exact (Int.min_eq_right (Int.natCast_nonneg room)).symm
  | cons m ms ih =>
    have rest : ∀ n ∈ ms, 0 < n.weight := fun n hn => hw n (List.mem_cons_of_mem m hn)
    have weight := hw m (List.mem_cons_self ..)
    have more := weightUp_nonneg (h := h) rest
    rw [ownersFrom, List.length_append, List.length_replicate, weightUp, Int.natCast_add, ih rest]
    split <;> omega

theorem count_ownersFrom (hw : ∀ m ∈ ms, 0 < m.weight) (room i : Nat) {k : Nat}
    (hk : ms[k]? = some m) :
    ((ownersFrom h room i ms).count (i + k) : Int) =
      if isUp h m then max 0 (min m.weight (room - weightUp h (ms.take k))) else 0 := by
  induction ms generalizing room i k with
  | nil => cases hk
  | cons n ms ih =>
    have rest : ∀ m ∈ ms, 0 < m.weight := fun m hm => hw m (List.mem_cons_of_mem n hm)
    have weight := hw n (List.mem_cons_self ..)
    rw [ownersFrom, List.count_append]
    cases k with
    | zero =>
      obtain rfl : n = m := by simpa using hk
      have none : (ownersFrom h (room - if isUp h n then min n.weight.toNat room else 0)
          (i + 1) ms).count i = 0 :=
        List.count_eq_zero.mpr fun hi => absurd (le_of_mem_ownersFrom hi) (by omega)
      rw [Nat.add_zero, List.count_replicate_self, none, List.take_zero,
        show weightUp h [] = 0 from rfl]
      split <;> omega
    | succ k =>
      have apart : (List.replicate (if isUp h n then min n.weight.toNat room else 0) i).count
          (i + (k + 1)) = 0 :=
        List.count_eq_zero.mpr fun hi => absurd (List.mem_replicate.mp hi).2 (by omega)
      have more : 0 ≤ weightUp h (ms.take k) :=
        weightUp_nonneg fun m hm => rest m (List.mem_of_mem_take hm)
      have place : i + (k + 1) = i + 1 + k := by omega
      rw [apart, Nat.zero_add, place, ih rest _ (i + 1) hk, List.take_succ_cons, weightUp]
      split
      · split <;> omega
      · rfl

theorem countP_positions (l : List Nat) (i : Nat) :
    (List.range l.length).countP (fun k => l[k]? = some i) = l.count i := by
  have listed : (List.range l.length).map (l[·]?) = l.map some := by
    apply List.ext_getElem <;> simp
  calc (List.range l.length).countP (fun k => l[k]? = some i)
      = ((List.range l.length).map (l[·]?)).countP (fun o => o = some i) := by
        rw [List.countP_map]
        rfl
    _ = (l.map some).countP (fun o => o = some i) := by rw [listed]
    _ = l.count i := by
      rw [List.countP_map, List.count]
      exact List.countP_congr fun k _ => by simp

end Owners

section Draw

variable {v : Director} {h : Health}

theorem select_draws (hv : v.Checked) (random : v.policy = .random) (hp : v.lottery h ≠ [])
    (hq : v.quorumReached h = true) (keys : SelectionKeys) (g : Generator) :
    v.select h keys g = v.drawFrom (v.lottery h) g := by
  have filled : (v.lottery h).isEmpty = false := by simpa using hp
  obtain ⟨tries, ht⟩ := Nat.exists_eq_succ_of_ne_zero (Nat.ne_of_gt (attempts_pos hv.members))
  unfold select
  rw [random]
  show v.tryRandom h v.attempts g = _
  rw [ht, tryRandom, filled, hq]
  rfl

theorem drawFrom_owned {pool : List Member} {owners : List Nat}
    (owned : pool.map some = owners.map (v.members[·]?)) (hp : pool ≠ []) (g : Generator) :
    ∃ i m, owners[(g.below pool.length).1]? = some i ∧ v.members[i]? = some m ∧
      v.drawFrom pool g = (.ok m.backend, (g.below pool.length).2) := by
  have slot : (g.below pool.length).1 < pool.length := g.below_lt (List.length_pos_iff.mpr hp)
  have owner := congrArg (·[(g.below pool.length).1]?) owned
  simp only [List.getElem?_map, List.getElem?_eq_getElem slot, Option.map_some] at owner
  obtain ⟨i, hi, found⟩ := Option.map_eq_some_iff.mp owner.symm
  refine ⟨i, pool[(g.below pool.length).1], hi, found, ?_⟩
  rw [drawFrom, holder_of_lt slot]

/-- The slots of a lottery go to the healthy members in the order of the declaration: to each its
weight, cut where the thousand slots end. Of the slots that a draw may give, a member is picked by
those that it holds. -/
theorem lottery_composition {decl : DirectorDeclaration} {d : Declarations}
    (hv : ofDeclaration decl d = .ok v) (random : v.policy = .random) (h : Health) :
    let pool := v.lottery h
    ∃ owners : List Nat,
      pool.map some = owners.map (v.members[·]?) ∧
      owners.Pairwise (· ≤ ·) ∧
      (∀ i m, v.members[i]? = some m → (owners.count i : Int) =
        if isUp h m then max 0 (min m.weight (1000 - weightUp h (v.members.take i))) else 0) ∧
      (pool.length : Int) = min 1000 (weightUp h v.members) ∧
      (v.healthy h).length = v.members.countP (isUp h) ∧
      ((∃ m ∈ v.members, isUp h m = true) → pool ≠ []) ∧
      (∀ i, (List.range pool.length).countP (fun slot => owners[slot]? = some i) = owners.count i) ∧
      ∀ keys g, pool ≠ [] → v.quorumReached h = true →
        ∃ i m, owners[(g.below pool.length).1]? = some i ∧ v.members[i]? = some m ∧
          v.select h keys g = (.ok m.backend, (g.below pool.length).2) := by
  intro pool
  have checked : v.Checked := ofDeclaration_checked hv
  have apart : v.policy ≠ .ring := by simp [random]
  have weight := checked.weight apart
  have owned : pool.map some = (ownersFrom h lotterySlots 0 v.members).map (v.members[·]?) :=
    lotteryFrom_owned h lotterySlots [] v.members
  have many : (ownersFrom h lotterySlots 0 v.members).length = pool.length := by
    simpa using (congrArg List.length owned).symm
  refine ⟨ownersFrom h lotterySlots 0 v.members, owned, ownersFrom_pairwise ..,
    fun i m hm => ?_, ?_, List.countP_eq_length_filter.symm, fun ⟨m, hm, up⟩ => ?_, fun i => ?_,
      fun keys g hp hq => ?_⟩
  · have share := count_ownersFrom (h := h) weight lotterySlots 0 hm
    rwa [Nat.zero_add] at share
  · rw [← many]
    exact length_ownersFrom weight lotterySlots 0
  · have some : v.healthy h ≠ [] := List.ne_nil_of_mem (List.mem_filter.mpr ⟨hm, up⟩)
    have filled := lottery_isEmpty (h := h) checked apart
    exact fun none => some (by simpa [pool, none] using filled)
  · rw [← many]
    exact countP_positions _ i
  · rw [select_draws checked random hp hq]
    exact drawFrom_owned owned hp g

def weighted (name : String) (weight : Int64) : DirectorProperty :=
  .backend .unknown [⟨.unknown, "backend", .ident .unknown name⟩,
    ⟨.unknown, "weight", .integer .unknown weight⟩]

def weightedPool : DirectorDeclaration :=
  ⟨.unknown, "pool", "random",
    [weighted "delta" 700, weighted "echo" 9, weighted "foxtrot" 9223372036854775807,
      weighted "golf" 1]⟩

def weightedDirector : Director :=
  { initial "pool" .random with
    members := [⟨originNamed "delta", none, 700⟩, ⟨originNamed "echo", none, 9⟩,
      ⟨originNamed "foxtrot", none, 9223372036854775807⟩, ⟨originNamed "golf", none, 1⟩] }

theorem lottery_composition_cut :
    let origins : Declarations :=
      { Declarations.empty with backends := ["delta", "echo", "foxtrot", "golf"].map originNamed }
    ofDeclaration weightedPool origins = .ok weightedDirector ∧
      weightedDirector.policy = .random ∧
      ∃ owners : List Nat, owners.Pairwise (· ≤ ·) ∧
      [0, 1, 2, 3].map owners.count = [700, 0, 300, 0] ∧
        (weightedDirector.lottery ⟨["echo"]⟩).length = 1000 := by
  intro origins
  have built : ofDeclaration weightedPool origins = .ok weightedDirector := rfl
  obtain ⟨owners, -, order, share, many, -⟩ := lottery_composition built rfl ⟨["echo"]⟩
  have first := share 0 _ rfl
  have second := share 1 _ rfl
  have third := share 2 _ rfl
  have last := share 3 _ rfl
  refine ⟨built, rfl, owners, order, ?_, ?_⟩
  · have shares (i : Nat) (n : Nat) (h : (owners.count i : Int) = n) : owners.count i = n :=
      Int.ofNat.inj h
    simp only [List.map_cons, List.map_nil]
    rw [shares 0 700 (first.trans (by decide)), shares 1 0 (second.trans (by decide)),
      shares 2 300 (third.trans (by decide)), shares 3 0 (last.trans (by decide))]
  · exact Int.ofNat.inj (many.trans (by decide))

end Draw

end EdgeCache.Director
