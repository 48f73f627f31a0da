import EdgeCache.Proofs.Groups
import EdgeCache.Proofs.Templates

/-! What searches leave behind. A match has as many groups as its pattern, and only a search that
finds something changes the groups. -/

namespace EdgeCache

namespace Pattern

section Sizes

variable {p : Pattern} {steps : Array Step} {text : Array Char} {seen seen' : Array Bool}
    {marks : Marks} {size : Nat}

theorem run_sized (j : Job) (s : Step) (text : Array Char) :
    (∀ marks, (j.run s text).1 = some marks → marks.size = j.marks.size) ∧
      ∀ k ∈ (j.run s text).2, k.marks.size = j.marks.size := by
  have hands {l : List Job} (h : ∀ k ∈ l, k.marks.size = j.marks.size) :
      (∀ marks, (none : Option Marks) = some marks → marks.size = j.marks.size) ∧
        ∀ k ∈ l, k.marks.size = j.marks.size := by
    refine ⟨fun _ ended => ?_, h⟩
    cases ended
  have stuck := hands (l := []) fun _ hk => nomatch hk
  have goes (k : Job) (same : k.marks.size = j.marks.size) :=
    hands fun _ hk => List.mem_singleton.mp hk ▸ same
  cases s with
  | accept => exact ⟨fun marks h => Option.some.inj h ▸ rfl, fun _ hk => nomatch hk⟩
  | one set next =>
    unfold Job.run
    dsimp only
    split
    · split
      · exact goes _ rfl
      · exact stuck
    · exact stuck
  | look l next =>
    unfold Job.run
    dsimp only
    split
    · exact goes _ rfl
    · exact stuck
  | mark slot next => exact goes _ Array.size_setIfInBounds
  | fork first second =>
    exact hands fun k hk => (List.mem_pair.mp hk).elim (fun h => h ▸ rfl) fun h => h ▸ rfl

theorem explore_sized {fuel : Nat} {jobs : List Job} (sized : ∀ j ∈ jobs, j.marks.size = size)
    (found : explore steps text fuel jobs seen = (some marks, seen')) : marks.size = size := by
  induction fuel generalizing jobs seen with
  | zero => cases found
  | succ fuel ih =>
    cases jobs with
    | nil => cases found
    | cons j jobs =>
      obtain ⟨first, rest⟩ := List.forall_mem_cons.mp sized
      unfold explore at found
      dsimp only at found
      split at found
      · exact ih rest found
      split at found
      · exact ih rest found
      · rename_i s _
        obtain ⟨ends, goes⟩ := run_sized j s text
        split at found
        · rename_i ended
          cases found
          exact (ends _ (congrArg Prod.fst ended)).trans first
        · rename_i next going
          rw [going] at goes
          exact ih (List.forall_mem_append.mpr ⟨fun k hk => (goes k hk).trans first, rest⟩) found

theorem findFrom_sized {count place : Nat} (found : findFrom p text count place seen = some marks) :
    marks.size = 2 * p.groups := by
  induction count generalizing place seen with
  | zero => cases found
  | succ count ih =>
    unfold findFrom at found
    dsimp only at found
    split at found
    · rename_i explored
      cases found
      refine explore_sized (fun j hj => ?_) explored
      rw [List.mem_singleton.mp hj]
      exact Array.size_replicate
    · exact ih found

theorem length_groups {place : Nat} {m : Match} (found : p.find? text place = some m) :
    m.groups.length = p.groups := by
  obtain ⟨marks, hmarks, hm⟩ := Option.bind_eq_some_iff.mp found
  obtain ⟨span, -, rfl⟩ := Option.map_eq_some_iff.mp hm
  rw [List.length_map, List.length_range, findFrom_sized hmarks]
  exact Nat.mul_div_cancel_left _ Nat.two_pos

theorem exists_groups {text : String} (read : ofText text = .ok p) : ∃ n, p.groups = n + 1 := by
  unfold ofText at read
  split at read
  · cases read
  · split at read <;> cases read
    exact ⟨_, rfl⟩

end Sizes

theorem Match.texts_getElem? {m : Match} {i : Nat} (h : i < m.groups.length) (text : Array Char) :
    (m.texts text)[i]? = some (String.ofList (m.groupText text i)) := by
  unfold texts groupText
  rw [List.getElem?_map, List.getElem?_eq_getElem h]
  cases m.groups[i] <;> rfl

end Pattern

structure Finds (pattern subject : String) (p : Pattern) (m : Pattern.Match) : Prop where
  read : Pattern.ofText pattern = .ok p
  found : p.find? subject.toList.toArray 0 = some m

def Matches (pattern subject : String) : Prop := ∃ p m, Finds pattern subject p m

theorem matches_iff {pattern subject : String} :
    Matches pattern subject ↔ (Pattern.ofText pattern).toOption.any (·.isMatch subject) = true := by
  constructor
  · rintro ⟨p, m, read, found⟩
    rw [read]
    exact Option.isSome_iff_exists.mpr ⟨m, found⟩
  · intro h
    cases read : Pattern.ofText pattern with
    | error e =>
      rw [read] at h
      cases h
    | ok p =>
      rw [read] at h
      obtain ⟨m, found⟩ := Option.isSome_iff_exists.mp h
      exact ⟨p, m, read, found⟩

instance (pattern subject : String) : Decidable (Matches pattern subject) :=
  decidable_of_iff _ matches_iff.symm

namespace Captures

def after (pattern subject : String) (old : Captures) : Captures :=
  match Pattern.ofText pattern with
  | .ok p => ((p.captures? subject).map mk).getD old
  | .error _ => old

variable {pattern subject : String} {p : Pattern} {m : Pattern.Match}

theorem after_of_finds (h : Finds pattern subject p m) (old : Captures) :
    old.after pattern subject = ⟨m.texts subject.toList.toArray⟩ := by
  unfold after Pattern.captures?
  rw [h.read]
  dsimp only
  rw [h.found]
  rfl

theorem after_of_not_matches (h : ¬ Matches pattern subject) (old : Captures) :
    old.after pattern subject = old := by
  unfold after Pattern.captures?
  cases read : Pattern.ofText pattern with
  | error e => rfl
  | ok p =>
    dsimp only
    cases found : p.find? subject.toList.toArray 0 with
    | none => rfl
    | some m => exact absurd ⟨p, m, read, found⟩ h

theorem group?_eq_some_iff {k : Captures} {index text : String} :
    k.group? index = some text ↔
    ∃ i, index = String.ofList (Decimal.digits i) ∧ k.groups[i]? = some text := by
  constructor
  · intro h
    obtain ⟨g, found, -⟩ := Option.map_eq_some_iff.mp h
    have holds := List.find?_some found
    have written : Decimal.digits g.2 = index.toList := beq_iff_eq.mp holds
    have same : index = String.ofList (Decimal.digits g.2) := by rw [written, String.ofList_toList]
    refine ⟨g.2, same, ?_⟩
    rw [← group?_digits, ← same, h]
  · rintro ⟨i, rfl, h⟩
    rw [group?_digits, h]

theorem group?_none (index : String) : Captures.none.group? index = Option.none := rfl

/-- The keys are the numbers up to `n`, and below each of them is the text of that group in a
match. -/
structure OfMatch (k : Captures) (subject : String) (m : Pattern.Match) (n : Nat) : Prop where
  keys : ∀ index, (k.group? index).isSome = true ↔ ∃ i ≤ n, index = String.ofList (Decimal.digits i)
  texts : ∀ i ≤ n, k.group? (String.ofList (Decimal.digits i)) =
    some (String.ofList (m.groupText subject.toList.toArray i))

theorem OfMatch.unique {k l : Captures} {n : Nat} (hk : k.OfMatch subject m n)
    (hl : l.OfMatch subject m n) :
    k.group? = l.group? := by
  funext index
  by_cases key : ∃ i ≤ n, index = String.ofList (Decimal.digits i)
  · obtain ⟨i, hi, rfl⟩ := key
    rw [hk.texts i hi, hl.texts i hi]
  · rw [Option.not_isSome_iff_eq_none.mp (mt (hk.keys index).mp key),
      Option.not_isSome_iff_eq_none.mp (mt (hl.keys index).mp key)]

theorem ofMatch_of_finds {n : Nat} (h : Finds pattern subject p m) (size : p.groups = n + 1) :
    OfMatch ⟨m.texts subject.toList.toArray⟩ subject m n := by
  have within {i : Nat} : i ≤ n ↔ i < m.groups.length := by
    rw [Pattern.length_groups h.found, size, Nat.lt_succ_iff]
  refine ⟨fun index => ?_, fun i hi => ?_⟩
  · rw [Option.isSome_iff_exists]
    constructor
    · rintro ⟨text, hg⟩
      obtain ⟨i, same, hi⟩ := group?_eq_some_iff.mp hg
      have inside := (List.getElem?_eq_some_iff.mp hi).1
      rw [Pattern.Match.texts, List.length_map] at inside
      exact ⟨i, within.mpr inside, same⟩
    · rintro ⟨i, hi, rfl⟩
      exact ⟨_, (group?_digits _ i).trans (Pattern.Match.texts_getElem? (within.mp hi) _)⟩
  · exact (group?_digits _ i).trans (Pattern.Match.texts_getElem? (within.mp hi) _)

end Captures

namespace Value

variable {l r v : Value} {op : InfixOp} {pattern subject : String} {b : Bool} {old new : Captures}
    {e : ValueError}

theorem search_eq_ok (h : search pattern subject old = .ok (b, new)) :
    new = old.after pattern subject := by
  unfold search at h
  unfold Captures.after
  split at h
  · cases h
  · rename_i p read
    rw [read]
    dsimp only
    split at h
    · rename_i found
      cases h
      rw [found]
      rfl
    · rename_i absent
      cases h
      rw [absent]
      rfl

theorem search_eq_error (h : search pattern subject old = .error e) :
    ¬ Matches pattern subject := by
  rintro ⟨p, m, read, -⟩
  unfold search at h
  rw [read] at h
  dsimp only at h
  split at h <;> cases h

def groupsAfter (op : InfixOp) (l r : Value) (old : Captures) : Captures :=
  match Run.soughtBy op l r with
  | some (pattern, subject) => old.after pattern subject
  | none => old

theorem matches?_eq_ok (h : l.matches? op r old = .ok (b, new)) :
    new = groupsAfter .regex l r old := by
  unfold matches? at h
  unfold groupsAfter Run.soughtBy
  dsimp only
  cases sought : l.sought? r with
  | some p =>
    rw [sought] at h
    exact search_eq_ok h
  | none =>
    rw [sought] at h
    dsimp only at h
    split at h <;> cases h
    rfl

theorem matches?_eq_error (h : l.matches? op r old = .error e) :
    groupsAfter .regex l r old = old := by
  unfold matches? at h
  unfold groupsAfter Run.soughtBy
  dsimp only
  cases sought : l.sought? r with
  | some p =>
    rw [sought] at h
    exact Captures.after_of_not_matches (search_eq_error h) old
  | none => rfl

theorem operate_eq_ok (h : l.operate op r old = .ok (v, new)) : new = groupsAfter op l r old := by
  cases op with
  | regex | notRegex =>
    obtain ⟨⟨b, k⟩, found, h⟩ := bind_eq_ok h
    cases h
    exact matches?_eq_ok found
  | _ =>
    obtain ⟨x, -, h⟩ := bind_eq_ok h
    cases h
    rfl

theorem operate_eq_error (h : l.operate op r old = .error e) : groupsAfter op l r old = old := by
  cases op with
  | regex | notRegex =>
    rcases bind_eq_error h with failed | ⟨⟨b, k⟩, -, h⟩
    · exact matches?_eq_error failed
    · cases h
  | _ => rfl

end Value

namespace Context

variable {env : Environment} {c d : Context} {name : String} {v : Value}

theorem captures_setHeaders (c : Context) (h : Headers) (m : MessageName) :
    (c.setHeaders h m).captures = c.captures := by
  cases m <;> rfl

theorem captures_of_write {x : Variable} {op : AssignOp} (h : x.write c name op v = .ok d) :
    d.captures = c.captures := by
  cases x with
  | slot | clientIdentity | backend =>
    obtain ⟨_, -, hd⟩ := bind_eq_ok h
    cases hd
    rfl
  | «local» n =>
    simp only [Variable.write] at h
    split at h
    · cases h
    · obtain ⟨_, -, hd⟩ := bind_eq_ok h
      cases hd
      rfl
  | header m | method m | url m | status m =>
    obtain ⟨_, -, hd⟩ := bind_eq_ok h
    cases hd
    cases m <;> rfl
  | group | reading => cases h

theorem captures_of_setVariable {op : AssignOp} (h : c.setVariable env name op v = .ok d) :
    d.captures = c.captures := by
  unfold setVariable at h
  split at h
  · cases h
  · exact captures_of_write (mapError_eq_ok h)

theorem captures_of_addVariable (h : c.addVariable env name v = .ok d) :
    d.captures = c.captures := by
  unfold addVariable at h
  split at h
  · obtain ⟨key, -, h⟩ := bind_eq_ok (mapError_eq_ok h)
    obtain ⟨value, -, hd⟩ := bind_eq_ok h
    cases hd
    exact captures_setHeaders ..
  · split at h <;> cases h

theorem captures_of_unsetVariable (h : c.unsetVariable env name = .ok d) :
    d.captures = c.captures := by
  unfold unsetVariable at h
  split at h
  · obtain ⟨key, -, hd⟩ := bind_eq_ok (mapError_eq_ok h)
    cases hd
    exact captures_setHeaders ..
  · split at h <;> cases h
    rfl
  · cases h

theorem captures_of_call {b : Builtin} (known : b ∈ Builtin.library) {args : List Value}
    (called : b.call env c args = .ok (v, d)) : d.captures = c.captures := by
  rcases Builtin.call_effect known called with beside | ⟨m, headers, -, rfl⟩
  · rw [beside.rest]
  · exact captures_setHeaders ..

end Context

def Machine.captures (m : Machine) : Captures := m.context.captures

open Machine (captures)

namespace Run

theorem operate_eq (op : InfixOp) (l r : Value) (m : Machine) :
    operate op l r m = match l.operate op r m.captures with
      | .ok (v, k) => (.done v, (m.seek (soughtBy op l r)).withGroups k)
      | .error e => (.failed (.of e), m.seek (soughtBy op l r)) := by
  rw [captures, ← m.seek_context (soughtBy op l r)]
  rfl

theorem operate_captures (op : InfixOp) (l r : Value) (m : Machine) :
    captures (operate op l r m).2 = Value.groupsAfter op l r m.captures := by
  rw [operate_eq]
  cases worked : l.operate op r m.captures with
  | ok found => exact Value.operate_eq_ok worked
  | error e =>
    exact (congrArg Context.captures (m.seek_context _)).trans (Value.operate_eq_error worked).symm

theorem operate_trace (op : InfixOp) (l r : Value) (m : Machine) :
    (operate op l r m).2.trace = (m.seek (soughtBy op l r)).trace := by
  rw [operate_eq]
  split <;> rfl

theorem operate_captures_of_failed {op : InfixOp} {l r : Value} {m n : Machine} {f : Failure}
    (h : operate op l r m = (.failed f, n)) : n.captures = m.captures := by
  rw [operate_eq] at h
  split at h
  · cases h
  · cases h
    exact congrArg Context.captures (m.seek_context _)

theorem takes_captures (subject : String) (c : Case) (m : Machine) :
    captures (takes subject c m).2 =
    match c.test with
    | some (.regex pattern) => m.captures.after pattern subject
    | _ => m.captures := by
  unfold takes
  cases c.test with
  | none => rfl
  | some test =>
    cases test with
    | equal text => rfl
    | regex pattern =>
      dsimp only
      cases searched : Value.search pattern subject m.context.captures with
      | ok found => exact Value.search_eq_ok searched
      | error e => exact (Captures.after_of_not_matches (Value.search_eq_error searched) _).symm

theorem takes_trace (subject : String) (c : Case) (m : Machine) :
    (takes subject c m).2.trace = m.trace := by
  unfold takes
  split
  · rfl
  · rfl
  · split <;> rfl

end Run

end EdgeCache
