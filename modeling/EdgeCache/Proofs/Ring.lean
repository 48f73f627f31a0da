import EdgeCache.Director.Select

/-! Points on a ring. The one that is picked is the last of those at the nearest place, so a backend
that joins the ring takes over some keys itself and moves no other one. -/

namespace EdgeCache

/-- The second list is the first one with more elements between, all of them with a property. -/
inductive Grown {α : Type} (P : α → Prop) : List α → List α → Prop
  | nil : Grown P [] []
  | keep (a : α) {xs ys : List α} (rest : Grown P xs ys) : Grown P (a :: xs) (a :: ys)
  | add {a : α} {xs ys : List α} (new : P a) (rest : Grown P xs ys) : Grown P xs (a :: ys)

namespace Grown

variable {α β : Type} {P : α → Prop} {xs ys : List α}

theorem refl (xs : List α) : Grown P xs xs := by
  induction xs with
  | nil => exact nil
  | cons a xs ih => exact keep a ih

theorem append (zs : List α) (h : Grown P xs ys) : Grown P (zs ++ xs) (zs ++ ys) := by
  induction zs with
  | nil => exact h
  | cons z zs ih => exact keep z ih

theorem append_new (zs : List α) (new : ∀ z ∈ zs, P z) (h : Grown P xs ys) :
    Grown P xs (zs ++ ys) := by
  induction zs with
  | nil => exact h
  | cons z zs ih =>
    have rest := ih fun y hy => new y (List.mem_cons_of_mem z hy)
    exact add (new z (List.mem_cons_self ..)) rest

theorem filter (q : α → Bool) (h : Grown P xs ys) : Grown P (xs.filter q) (ys.filter q) := by
  induction h with
  | nil => exact nil
  | keep a _ ih =>
    by_cases ha : q a = true
    · simpa only [List.filter_cons_of_pos ha] using keep a ih
    · simpa only [List.filter_cons_of_neg ha] using ih
  | @add a _ _ new _ ih =>
    by_cases ha : q a = true
    · simpa only [List.filter_cons_of_pos ha] using add new ih
    · simpa only [List.filter_cons_of_neg ha] using ih

theorem of_filter {q q' : α → Bool} (kept : ∀ a, q a = true → q' a = true)
    (new : ∀ a, q a = false → q' a = true → P a) (xs : List α) :
    Grown P (xs.filter q) (xs.filter q') := by
  induction xs with
  | nil => exact nil
  | cons a xs ih =>
    cases ha : q a with
    | true =>
      rw [List.filter_cons_of_pos ha, List.filter_cons_of_pos (kept a ha)]
      exact keep a ih
    | false =>
      rw [List.filter_cons_of_neg (by simp [ha])]
      cases ha' : q' a with
      | true =>
        rw [List.filter_cons_of_pos ha']
        exact add (new a ha ha') ih
      | false => rwa [List.filter_cons_of_neg (by simp [ha'])]

theorem flatMap {Q : β → Prop} (f : α → List β) (hf : ∀ a, P a → ∀ b ∈ f a, Q b)
    (h : Grown P xs ys) : Grown Q (xs.flatMap f) (ys.flatMap f) := by
  induction h with
  | nil => exact nil
  | keep a _ ih => simpa only [List.flatMap_cons] using ih.append (f a)
  | @add a _ _ new _ ih => simpa only [List.flatMap_cons] using ih.append_new (f a) (hf a new)

theorem mono {Q : α → Prop} (hq : ∀ a, P a → Q a) (h : Grown P xs ys) : Grown Q xs ys := by
  induction h with
  | nil => exact nil
  | keep a _ ih => exact keep a ih
  | add new _ ih => exact add (hq _ new) ih

theorem eq_nil (h : Grown P xs []) : xs = [] := by
  cases h
  rfl

end Grown

namespace Director

variable {P : Nat × Member → Prop} {a b : Option (Nat × Member)}
    {points old new : List (Nat × Member)}

theorem mem_of_foldl_nearer {p : Nat × Member} (h : points.foldl nearer a = some p) :
    p ∈ points ∨ a = some p := by
  induction points generalizing a with
  | nil => exact .inr h
  | cons q points ih =>
    rcases ih h with hp | hp
    · exact .inl (List.mem_cons_of_mem q hp)
    · have either : a = some p ∨ q = p := by
        unfold nearer at hp
        split at hp
        · split at hp
          · exact .inl hp
          · exact .inr (Option.some.inj hp)
        · exact .inr (Option.some.inj hp)
      rcases either with ha | rfl
      · exact .inr ha
      · exact .inl (List.mem_cons_self ..)

theorem mem_of_nearest? {m : Member} (h : nearest? points = some m) :
    ∃ place, (place, m) ∈ points := by
  obtain ⟨p, hp, rfl⟩ := Option.map_eq_some_iff.mp h
  rcases mem_of_foldl_nearer hp with hm | hn
  · exact ⟨p.1, hm⟩
  · cases hn

theorem isSome_nearer (a : Option (Nat × Member)) (p : Nat × Member) :
    (nearer a p).isSome = true := by
  unfold nearer
  split
  · split <;> rfl
  · rfl

theorem isSome_foldl_nearer (h : a.isSome = true) : (points.foldl nearer a).isSome = true := by
  induction points generalizing a with
  | nil => exact h
  | cons p points ih => exact ih (isSome_nearer a p)

theorem nearest?_eq_none_iff : nearest? points = none ↔ points = [] := by
  cases points with
  | nil => exact iff_of_true rfl rfl
  | cons p points =>
    have found : ((p :: points).foldl nearer none).isSome = true := by
      rw [List.foldl_cons]
      exact isSome_foldl_nearer (isSome_nearer none p)
    refine iff_of_false (fun h => ?_) (List.cons_ne_nil p points)
    rw [nearest?, Option.map_eq_none_iff] at h
    rw [h] at found
    cases found

def Overtakes (P : Nat × Member → Prop) (a b : Option (Nat × Member)) : Prop :=
  b = a ∨ ∃ p, b = some p ∧ P p ∧ ∀ q, a = some q → p.1 ≤ q.1

theorem Overtakes.nearer (h : Overtakes P a b) (p : Nat × Member) :
    Overtakes P (nearer a p) (nearer b p) := by
  rcases h with rfl | ⟨q, rfl, hq, least⟩
  · exact .inl rfl
  · by_cases before : q.1 < p.1
    · -- the new point stays the nearest one
      refine .inr ⟨q, by simp only [Director.nearer, if_pos before], hq, fun r hr => ?_⟩
      cases a with
      | none => cases hr; omega
      | some o =>
        have := least o rfl
        simp only [Director.nearer] at hr
        split at hr <;> cases hr <;> omega
    · -- the old point takes its place, as it does without the new one
      refine .inl ?_
      cases a with
      | none => simp only [Director.nearer, if_neg before]
      | some o =>
        have := least o rfl
        have after : ¬ o.1 < p.1 := by omega
        simp only [Director.nearer, if_neg before, if_neg after]

theorem Overtakes.nearer_new {p : Nat × Member} (h : Overtakes P a b) (hp : P p) :
    Overtakes P a (Director.nearer b p) := by
  cases b with
  | none =>
    rcases h with rfl | ⟨q, hq, -, -⟩
    · exact .inr ⟨p, rfl, hp, fun _ hn => nomatch hn⟩
    · cases hq
  | some o =>
    by_cases before : o.1 < p.1
    · simpa only [Director.nearer, if_pos before] using h
    · refine .inr ⟨p, by simp only [Director.nearer, if_neg before], hp, fun r hr => ?_⟩
      rcases h with h | ⟨q, hq, -, least⟩
      · rw [← h] at hr
        cases hr
        omega
      · have := least r hr
        cases hq
        omega

theorem overtakes_foldl (h : Grown P old new) (hab : Overtakes P a b) :
    Overtakes P (old.foldl nearer a) (new.foldl nearer b) := by
  induction h generalizing a b with
  | nil => exact hab
  | keep p _ ih => exact ih (hab.nearer p)
  | add hp _ ih => exact ih (hab.nearer_new hp)

theorem nearest?_grown (h : Grown P old new) :
    nearest? new = nearest? old ∨ ∃ p, P p ∧ nearest? new = some p.2 := by
  rcases overtakes_foldl h (.inl rfl : Overtakes P none none) with same | ⟨p, hp, hP, -⟩
  · exact .inl (congrArg (Option.map Prod.snd) same)
  · exact .inr ⟨p, hP, congrArg (Option.map Prod.snd) hp⟩

theorem onRing?_grown (h : Grown P old new) (place : Nat) :
    onRing? new place = onRing? old place ∨ ∃ p, P p ∧ onRing? new place = some p.2 := by
  have ahead := h.filter fun p => place ≤ p.1
  unfold onRing?
  cases hn : nearest? (new.filter fun p => place ≤ p.1) with
  | none =>
    -- no point lies ahead, with or without the new ones, so both rings begin anew
    have empty : old.filter (fun p => place ≤ p.1) = [] := by
      rw [nearest?_eq_none_iff.mp hn] at ahead
      exact ahead.eq_nil
    rw [empty]
    exact nearest?_grown h
  | some m =>
    rcases nearest?_grown ahead with same | ⟨p, hp, found⟩
    · rw [hn] at same
      simp only [← same, true_or]
    · rw [hn] at found
      exact .inr ⟨p, hp, found⟩

theorem mem_of_onRing? {m : Member} {place : Nat} (h : onRing? points place = some m) :
    ∃ q, (q, m) ∈ points := by
  unfold onRing? at h
  split at h
  · cases h
    obtain ⟨q, hq⟩ := mem_of_nearest? ‹_›
    exact ⟨q, (List.mem_filter.mp hq).1⟩
  · exact mem_of_nearest? h

theorem exists_onRing? (h : points ≠ []) (place : Nat) : ∃ m, onRing? points place = some m := by
  unfold onRing?
  split
  · exact ⟨_, rfl⟩
  · exact Option.ne_none_iff_exists'.mp fun hn => h (nearest?_eq_none_iff.mp hn)

theorem mem_ring {v : Director} {h : Health} {q : Nat} {m : Member} (hm : (q, m) ∈ v.ring h) :
    m ∈ v.healthy h := by
  obtain ⟨n, hn, hp⟩ := List.mem_flatMap.mp hm
  obtain ⟨i, -, hi⟩ := List.mem_map.mp hp
  cases hi
  exact hn

theorem ring_ne_nil {v : Director} {h : Health} (hv : v.healthy h ≠ []) : v.ring h ≠ [] := by
  obtain ⟨m, ms, hm⟩ := List.exists_cons_of_ne_nil hv
  simp [ring, hm, pointsPerMember]

/-- The second pool is the first one with a member more, at any place. -/
def Adds (v w : Director) (m : Member) : Prop :=
  ∃ front back, v.members = front ++ back ∧ w = { v with members := front ++ m :: back }

structure Rises (name : String) (h h' : Health) : Prop where
  before : h.isUp name = false
  after : h'.isUp name = true
  others : ∀ n, n ≠ name → h'.isUp n = h.isUp n

theorem ring_adds {v w : Director} {m : Member} (hm : v.Adds w m) (h : Health) :
    Grown (fun p => p.2 = m) (v.ring h) (w.ring h) := by
  obtain ⟨front, back, hv, rfl⟩ := hm
  have members : Grown (· = m) v.members (front ++ m :: back) := by
    rw [hv]
    exact .append front (.add rfl (.refl back))
  refine (members.filter (isUp h)).flatMap _ fun n hn p hp => ?_
  obtain ⟨i, -, rfl⟩ := List.mem_map.mp hp
  exact hn

theorem ring_rises (v : Director) {h h' : Health} {name : String} (hr : Rises name h h') :
    Grown (fun p => p.2.backend.name = name) (v.ring h) (v.ring h') := by
  have healthy : Grown (fun m : Member => m.backend.name = name) (v.healthy h) (v.healthy h') := by
    refine .of_filter (fun m hm => ?_) (fun m down up => ?_) v.members
    · by_cases hn : m.backend.name = name
      · show h'.isUp m.backend.name = true
        rw [hn, hr.after]
      · exact (hr.others _ hn).trans hm
    · by_cases hn : m.backend.name = name
      · exact hn
      · have same : isUp h' m = isUp h m := hr.others _ hn
        rw [down, up] at same
        cases same
  refine healthy.flatMap _ fun n hn p hp => ?_
  obtain ⟨i, -, rfl⟩ := List.mem_map.mp hp
  exact hn

def ringKey (v : Director) (keys : SelectionKeys) : String :=
  match v.key with
  | .object => keys.hash
  | .client => keys.client

theorem select_ring {v : Director} (hv : v.policy = .ring) (h : Health) (keys : SelectionKeys)
    (g : Generator) : (v.select h keys g).1 = v.guarded h (v.pickRing h (v.ringKey keys)) := by
  unfold select
  rw [hv]
  rfl

theorem guarded_eq_ok {α : Type} {v : Director} {h : Health} {pick : Except DirectorError α} {a : α}
    (hg : v.guarded h pick = .ok a) : pick = .ok a := by
  unfold guarded at hg
  split at hg
  · cases hg
  · split at hg
    · cases hg
    · exact hg

theorem pickRing_eq_ok {v : Director} {h : Health} {key : String} {b : Backend}
    (hp : v.pickRing h key = .ok b) : ∃ m,
      onRing? (v.ring h) (digestPoint 4 (Utf8.ofString key) % hashRange) = some m ∧
      m.backend = b := by
  unfold pickRing at hp
  split at hp <;> cases hp
  exact ⟨_, ‹_›, rfl⟩

theorem pickRing_of_onRing? {v : Director} {h : Health} {key : String} {m : Member}
    (hm : onRing? (v.ring h) (digestPoint 4 (Utf8.ofString key) % hashRange) = some m) :
    v.pickRing h key = .ok m.backend := by
  unfold pickRing
  rw [hm]

theorem guarded_cases {α : Type} {v : Director} {h : Health} (hv : v.healthy h ≠ [])
    (pick : Except DirectorError α) :
    v.guarded h pick = pick ∨ v.guarded h pick = .error (.quorumNotReached v.name) := by
  unfold guarded
  rw [if_neg (by simpa using hv)]
  cases v.quorumReached h
  · exact .inr rfl
  · exact .inl rfl

structure MovesOnlyTo (director : String) (joined : Backend → Prop)
    (before after : Except DirectorError Backend) :
    Prop where
  /-- It takes the key over, or the choice stays. -/
  gain : ∀ b b', before = .ok b → after = .ok b' → b' = b ∨ joined b'
  /-- Without it the key goes where it went, as long as there is a choice. -/
  loss : ∀ b, after = .ok b → ¬ joined b →
    before = .ok b ∨ before = .error (.quorumNotReached director)

theorem movesOnlyTo_of_grown {v w : Director} {h h' : Health} {joined : Backend → Prop}
    (hv : v.policy = .ring) (hw : w.policy = .ring) (key : w.key = v.key)
    (more : Grown (fun p => joined p.2.backend) (v.ring h) (w.ring h')) (keys : SelectionKeys)
    (g g' : Generator) :
    MovesOnlyTo v.name joined (v.select h keys g).1 (w.select h' keys g').1 := by
  have sameKey : w.ringKey keys = v.ringKey keys := by rw [ringKey, ringKey, key]
  rw [select_ring hv, select_ring hw, sameKey]
  have loss (b : Backend) (picked : w.guarded h' (w.pickRing h' (v.ringKey keys)) = .ok b)
      (hb : ¬ joined b) : v.guarded h (v.pickRing h (v.ringKey keys)) = .ok b ∨
        v.guarded h (v.pickRing h (v.ringKey keys)) = .error (.quorumNotReached v.name) := by
    obtain ⟨m, hm, rfl⟩ := pickRing_eq_ok (guarded_eq_ok picked)
    rcases onRing?_grown more (digestPoint 4 (Utf8.ofString (v.ringKey keys)) % hashRange) with
      same | ⟨p, hp, found⟩
    · rw [hm] at same
      obtain ⟨q, hq⟩ := mem_of_onRing? same.symm
      have healthy : v.healthy h ≠ [] := List.ne_nil_of_mem (mem_ring hq)
      rw [← pickRing_of_onRing? same.symm]
      exact guarded_cases healthy _
    · rw [hm] at found
      cases found
      exact absurd hp hb
  refine ⟨fun b b' hb hb' => ?_, loss⟩
  by_cases hj : joined b'
  · exact .inr hj
  · rcases loss b' hb' hj with same | missed
    · rw [hb] at same
      exact .inl (Except.ok.inj same).symm
    · rw [hb] at missed
      cases missed

/-- A backend that joins a ring, as a new member or because it has come up, takes some keys over,
and all others go where they went. -/
theorem ring_moves_only_to {v : Director} (hv : v.policy = .ring) (keys : SelectionKeys)
    (g g' : Generator) :
    (∀ w m h, v.Adds w m →
      MovesOnlyTo v.name (· = m.backend) (v.select h keys g).1 (w.select h keys g').1) ∧
    (∀ name h h', Rises name h h' →
      MovesOnlyTo v.name (·.name = name) (v.select h keys g).1 (v.select h' keys g').1) := by
  refine ⟨fun w m h hm => ?_, fun name h h' hr => ?_⟩
  · have more : Grown (fun p => p.2.backend = m.backend) (v.ring h) (w.ring h) :=
      (ring_adds hm h).mono fun p hp => congrArg Member.backend hp
    obtain ⟨front, back, -, hw⟩ := hm
    have policy : w.policy = .ring := by rw [hw, hv]
    have key : w.key = v.key := by rw [hw]
    exact movesOnlyTo_of_grown hv policy key more keys g g'
  · exact movesOnlyTo_of_grown hv hv rfl (ring_rises v hr) keys g g'

def onRing (name : String) : Member := ⟨⟨name, .origin ⟨.unknown, name, []⟩⟩, some name, 0⟩

def oneOnRing : Director := { initial "pool" .ring with members := [onRing "delta"], seed := 42 }

def twoOnRing : Director := { oneOnRing with members := [onRing "echo", onRing "delta"] }

theorem ring_moves_only_to_echo :
    let keys : SelectionKeys := ⟨"", "key-2"⟩
    let before := (oneOnRing.select .allUp keys ⟨0⟩).1
    let after := (twoOnRing.select .allUp keys ⟨0⟩).1
    oneOnRing.policy = .ring ∧ oneOnRing.Adds twoOnRing (onRing "echo") ∧
      before.toOption.map Backend.name = some "delta" ∧
      after.toOption.map Backend.name = some "echo" ∧
        MovesOnlyTo "pool" (· = (onRing "echo").backend) before after := by
  intro keys before after
  have adds : oneOnRing.Adds twoOnRing (onRing "echo") := ⟨[], [onRing "delta"], rfl, rfl⟩
  exact ⟨rfl, adds, by decide +kernel, by decide +kernel,
    (ring_moves_only_to rfl keys ⟨0⟩ ⟨0⟩).1 twoOnRing (onRing "echo") .allUp adds⟩

end Director

end EdgeCache
