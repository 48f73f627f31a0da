import EdgeCache.Proofs.Rates

/-! How long an entry stays penalized. It is penalized exactly for a positive time, as far as the
times reach: one that leads to before the first of them is taken for an eternity, like one that
leads beyond the last. -/

namespace EdgeCache

namespace Instant

def total (t : Instant) : Int := t.seconds * 1000000000 + t.nanos

/-- A place in time whose nanoseconds may go beyond a second on either side. -/
def carried (seconds nanos : Int) : Option Instant :=
  if nanos < 0 then make? (seconds - 1) (nanos + 1000000000).toNat
  else if 1000000000 ≤ nanos then make? (seconds + 1) (nanos - 1000000000).toNat
  else make? seconds nanos.toNat

theorem tdiv_thousand {q r : Int} (hr : -1000 < r ∧ r < 1000)
    (same : 0 ≤ q ∧ 0 ≤ r ∨ q ≤ 0 ∧ r ≤ 0) :
    (q * 1000 + r).tdiv 1000 = q := by
  rcases same with up | down
  · rw [Int.tdiv_eq_ediv_of_nonneg (by omega)]
    omega
  · rw [← Int.neg_neg (q * 1000 + r), Int.neg_tdiv, Int.tdiv_eq_ediv_of_nonneg (by omega)]
    omega

theorem shift?_eq (t : Instant) {q r : Int} (hr : -1000 < r ∧ r < 1000)
    (same : 0 ≤ q ∧ 0 ≤ r ∨ q ≤ 0 ∧ r ≤ 0) :
    t.shift? (q * 1000 + r) =
      if t.nanos < 1000000000 then carried (t.seconds + q) (t.nanos + r * 1000000)
      else if 0 < q ∨ 2000000000 ≤ (t.nanos : Int) + r * 1000000 then
        carried (t.seconds + q) (t.nanos - 1000000000 + r * 1000000)
      else if q = 0 then make? t.seconds (t.nanos + r * 1000000).toNat
      else carried (t.seconds + 1 + q) (t.nanos - 1000000000 + r * 1000000) := by
  have bound := t.nanos_lt
  have part : q * 1000 + r - q * 1000 = r := by omega
  unfold shift? carried
  simp only [tdiv_thousand hr same, part]
  by_cases plain : t.nanos < 1000000000
  · have noLeap : decide (1000000000 ≤ t.nanos) = false := by simpa using plain
    simp only [noLeap, if_pos plain, Bool.false_and, Bool.false_eq_true, if_false]
  · have leap : decide (1000000000 ≤ t.nanos) = true := by simpa using plain
    rw [if_neg plain]
    by_cases leaves : 0 < q ∨ 2000000000 ≤ (t.nanos : Int) + r * 1000000
    · have left : (decide (0 < q) || decide (0 < r * 1000000) &&
          decide (2000000000 ≤ (t.nanos : Int) + r * 1000000)) = true := by
        simp only [Bool.or_eq_true, Bool.and_eq_true, decide_eq_true_eq]
        omega
      simp only [leap, left, if_pos leaves, Bool.not_true, Bool.and_false, Bool.false_and,
        Bool.false_eq_true, if_false, if_true]
    · have stays : (decide (0 < q) || decide (0 < r * 1000000) &&
          decide (2000000000 ≤ (t.nanos : Int) + r * 1000000)) = false := by
        simp only [Bool.or_eq_false_iff, Bool.and_eq_false_iff, decide_eq_false_iff_not]
        omega
      simp only [leap, stays, if_neg leaves, Bool.not_false, Bool.true_and, decide_eq_true_eq,
        Bool.false_eq_true, if_false, if_true]

theorem carried_eq (s : Int) {n : Int} (hn : -1000000000 ≤ n ∧ n < 2000000000) :
    ∃ s' n', carried s n = make? s' n' ∧ n' < 1000000000 ∧
    s' * 1000000000 + n' = s * 1000000000 + n := by
  unfold carried
  split
  · exact ⟨_, _, rfl, by omega, by omega⟩
  · split
    · exact ⟨_, _, rfl, by omega, by omega⟩
    · exact ⟨_, _, rfl, by omega, by omega⟩

theorem exists_parts (n : Int) :
    ∃ q r, n = q * 1000 + r ∧ (-1000 < r ∧ r < 1000) ∧ (0 ≤ q ∧ 0 ≤ r ∨ q ≤ 0 ∧ r ≤ 0) := by
  by_cases h : 0 ≤ n
  · exact ⟨n / 1000, n % 1000, by omega, by omega, by omega⟩
  · exact ⟨-(-n / 1000), -(-n % 1000), by omega, by omega, by omega⟩

theorem make?_self (t : Instant) : make? t.seconds t.nanos = some t := by
  rw [make?, dif_pos t.inRange, dif_pos t.nanos_lt]

theorem make?_eq_some {s : Int} {n : Nat} {u : Instant} (h : make? s n = some u) :
    u.seconds = s ∧ u.nanos = n := by
  unfold make? at h
  split at h
  · split at h <;> cases h
    exact ⟨rfl, rfl⟩
  · cases h

theorem make?_eq_none {s : Int} {n : Nat} (hn : n < 2000000000) (h : make? s n = none) :
    ¬ (firstSecond ≤ s ∧ s ≤ lastSecond) := by
  intro range
  rw [make?, dif_pos range, dif_pos hn] at h
  cases h

variable {t : Instant} {d : Duration}

theorem add?_later (hd : 0 < d.millis) :
    ∃ s n, t.add? d = make? s n ∧ (t.seconds < s ∨ t.seconds = s ∧ t.nanos < n) := by
  obtain ⟨q, r, parts, hr, same⟩ := exists_parts d.millis
  have bound := t.nanos_lt
  rw [add?, parts, shift?_eq t hr same]
  split
  · obtain ⟨s, n, moved, hn, sum⟩ :=
      carried_eq (t.seconds + q) (n := t.nanos + r * 1000000) (by omega)
    exact ⟨s, n, moved, by omega⟩
  · split
    · obtain ⟨s, n, moved, hn, sum⟩ :=
        carried_eq (t.seconds + q) (n := t.nanos - 1000000000 + r * 1000000) (by omega)
      exact ⟨s, n, moved, by omega⟩
    · split
      · exact ⟨_, _, rfl, by omega⟩
      · omega

theorem add?_still (hd : d.millis = 0) : t.add? d = some t := by
  have still := shift?_eq t (q := 0) (r := 0) (by omega) (by omega)
  rw [add?, hd]
  refine (still.trans ?_).trans t.make?_self
  have bound := t.nanos_lt
  split
  · rw [carried, if_neg (by omega), if_neg (by omega)]
    congr 1
    omega
  · rw [if_neg (by omega), if_pos rfl]
    congr 1

theorem add?_earlier (hd : d.millis < 0) :
    ∃ s n, t.add? d = make? s n ∧ n < 2000000000 ∧
      (s < t.seconds ∧ n < 1000000000 ∨ s = t.seconds ∧ n ≤ t.nanos) ∧
      s * 1000000000 + n = t.total + d.millis * 1000000 := by
  obtain ⟨q, r, parts, hr, same⟩ := exists_parts d.millis
  have bound := t.nanos_lt
  unfold total
  rw [add?, parts, shift?_eq t hr same]
  split
  · obtain ⟨s, n, moved, hn, sum⟩ :=
      carried_eq (t.seconds + q) (n := t.nanos + r * 1000000) (by omega)
    exact ⟨s, n, moved, by omega, by omega, by omega⟩
  · split
    · omega
    · split
      · exact ⟨_, _, rfl, by omega, by omega, by omega⟩
      · obtain ⟨s, n, moved, hn, sum⟩ :=
          carried_eq (t.seconds + 1 + q) (n := t.nanos - 1000000000 + r * 1000000) (by omega)
        exact ⟨s, n, moved, by omega, by omega, by omega⟩

def Undershoots (t : Instant) (d : Duration) : Prop :=
  t.total + d.millis * 1000000 < firstSecond * 1000000000

theorem lt_iff {t u : Instant} :
    t.lt u = true ↔ t.seconds < u.seconds ∨ t.seconds = u.seconds ∧ t.nanos < u.nanos := by
  simp [lt]

theorem Undershoots.neg (h : t.Undershoots d) : d.millis < 0 := by
  have := t.inRange
  unfold Undershoots total at h
  omega

theorem lt_expiry_iff (early : t.lt .last = true) :
    t.lt (Builtin.expiry t d) = true ↔ 0 < d.millis ∨ t.Undershoots d := by
  have range := t.inRange
  unfold Builtin.expiry
  rcases Int.lt_trichotomy d.millis 0 with down | still | up
  · obtain ⟨s, n, moved, hn, back, sum⟩ := add?_earlier (t := t) down
    rw [moved]
    cases made : make? s n with
    | none =>
      have out := make?_eq_none hn made
      have under : t.Undershoots d := by
        unfold Undershoots
        unfold total at *
        omega
      exact iff_of_true early (.inr under)
    | some u =>
      obtain ⟨rfl, rfl⟩ := make?_eq_some made
      have here := u.inRange
      rw [Option.getD_some, lt_iff]
      unfold Undershoots
      unfold total at *
      omega
  · rw [add?_still still, Option.getD_some, lt_iff]
    unfold Undershoots total
    omega
  · obtain ⟨s, n, moved, later⟩ := add?_later (t := t) up
    refine iff_of_true ?_ (.inl up)
    rw [moved]
    cases made : make? s n with
    | none => exact early
    | some u =>
      obtain ⟨rfl, rfl⟩ := make?_eq_some made
      exact lt_iff.mpr later

end Instant

open Arguments (string rtime)
open Value (ofBool)
open Builtin (isPenalized penalize)

namespace RateCall

variable {env : Environment} {c : Context} {k : RateCall} {args : List Value} {box entry : String}
    {ttl : Duration}

/-- A call that penalizes an entry in a box for a time: it is told to, or it finds the entry free
and its rate exceeded. -/
inductive Penalizes (env : Environment) (c : Context) : RateCall → String → String → Duration → Prop
  | told (args : List Value) (accepted : Limiter.penalize.builtin.check args = .ok ())
    (declared : (env.declarations.penaltybox? (Arguments.name args 0)).isSome) :
    Penalizes env c ⟨.penalize, args⟩ (Arguments.name args 0) (string args 1) (rtime args 2)
  | exceeded (args : List Value)
    (free : isPenalized env.now c (Arguments.name args 5) (string args 0) = false)
    (answered : answer? env c ⟨.check, args⟩ = some (ofBool true)) :
    Penalizes env c ⟨.check, args⟩ (Arguments.name args 5) (string args 0) (rtime args 6)

theorem requireBox_eq {d : Declarations} (function : String)
    (declared : (d.penaltybox? box).isSome) :
    Builtin.requireBox d function box = .ok () := if_pos declared

theorem declared_of_requireBox {d : Declarations} {function : String}
    (h : Builtin.requireBox d function box = .ok ()) : (d.penaltybox? box).isSome := by
  unfold Builtin.requireBox at h
  split at h
  · assumption
  · cases h

theorem run_of_accepted (accepted : k.function.builtin.check k.args = .ok ()) (c : Context) :
    k.run env c = k.function.builtin.body env k.args c := by
  show (do Stop.lift (k.function.builtin.check k.args); k.function.builtin.body env k.args) c = _
  rw [accepted]
  rfl

theorem after_told (accepted : Limiter.penalize.builtin.check args = .ok ())
    (declared : (env.declarations.penaltybox? (Arguments.name args 0)).isSome) (c : Context) :
    after env c ⟨.penalize, args⟩ = penalize env.now c (Arguments.name args 0) (string args 1)
      (rtime args 2) := by
  have ran : run env ⟨.penalize, args⟩ c =
      .ok .null (penalize env.now c (Arguments.name args 0) (string args 1) (rtime args 2)) := by
    rw [run_of_accepted accepted]
    show Builtin.addPenalty env args c = _
    unfold Builtin.addPenalty
    rw [requireBox_eq _ declared]
    rfl
  unfold after
  rw [ran]

theorem answer_asked (accepted : Limiter.penalized.builtin.check args = .ok ())
    (declared : (env.declarations.penaltybox? (Arguments.name args 0)).isSome) (c : Context) :
    answer? env c ⟨.penalized, args⟩ =
      some (ofBool (isPenalized env.now c (Arguments.name args 0) (string args 1))) := by
  have ran : run env ⟨.penalized, args⟩ c =
      .ok (ofBool (isPenalized env.now c (Arguments.name args 0) (string args 1))) c := by
    rw [run_of_accepted accepted]
    show Builtin.hasPenalty env args c = _
    unfold Builtin.hasPenalty
    rw [requireBox_eq _ declared]
    rfl
  unfold answer?
  rw [ran]

theorem declared_of_check {v : Value} (answered : answer? env c ⟨.check, args⟩ = some v) :
    (env.declarations.penaltybox? (Arguments.name args 5)).isSome := by
  unfold answer? at answered
  split at answered
  · rename_i w d ran
    have ran : Builtin.checkRate env args c = .ok w d := Builtin.body_of_run ran
    obtain ⟨_, _, required, -⟩ := run_bind_eq_ok (Builtin.run_check ran)
    exact declared_of_requireBox (run_lift_eq_ok required).1
  · cases answered

theorem Penalizes.declared (h : k.Penalizes env c box entry ttl) :
    (env.declarations.penaltybox? box).isSome := by
  cases h with
  | told _ _ declared => exact declared
  | exceeded _ _ answered => exact declared_of_check answered

theorem Penalizes.expiry? (h : k.Penalizes env c box entry ttl) :
    (k.after env c).expiry? box entry = some (Builtin.expiry env.now ttl) := by
  cases h with
  | told args accepted declared =>
    rw [after_told accepted declared, Context.expiry?_penalize, if_pos ⟨rfl, rfl⟩]
  | exceeded args free answered =>
    have answer := check_answer rfl rfl answered
    rw [if_neg (by simp [free])] at answer
    rcases answer with ⟨-, set⟩ | ⟨wrong, -⟩
    · exact set
    · cases wrong

/-- Right after a call that penalizes an entry, it is penalized if the time is positive, and also if
the time leads to before the first of all instants. So it is penalized exactly for a positive time
just where the time does not lead there. -/
theorem penalized_iff_positive_iff {q : RateCall} (early : env.now.lt .last = true)
    (penalizes : k.Penalizes env c box entry ttl) (asks : q.function = .penalized)
    (about : q.box? = some (box, entry)) (accepted : q.function.builtin.check q.args = .ok ()) :
    ∃ b, q.answer? env (k.after env c) = some (ofBool b) ∧
      (b = true ↔ 0 < ttl.millis ∨ env.now.Undershoots ttl) ∧
      ((b = true ↔ 0 < ttl.millis) ↔ ¬ env.now.Undershoots ttl) := by
  obtain ⟨_, args⟩ := q
  cases asks
  cases about
  have answer := answer_asked accepted penalizes.declared (k.after env c)
  have ahead := Instant.lt_expiry_iff (d := ttl) early
  rw [Context.isPenalized_eq, penalizes.expiry?, Option.any_some] at answer
  refine ⟨_, answer, ahead, ?_⟩
  rw [ahead]
  have neg := Instant.Undershoots.neg (t := env.now) (d := ttl)
  constructor
  · intro same under
    have := same.mp (.inr under)
    have := neg under
    omega
  · intro inside
    exact or_iff_left inside

def penalizing (ttl : Duration) : RateCall :=
  ⟨.penalize, [.ident "box", .ofString "a", .ofRTime ttl]⟩

def asking : RateCall := ⟨.penalized, [.ident "box", .ofString "a"]⟩

def minuteAgo : Duration := ⟨-60000, by decide⟩

def millionYearsAgo : Duration := ⟨-31536000000000000, by decide⟩

theorem penalized_iff_positive_iff_minuteAgo :
    let c := (penalizing minuteAgo).after limiting Context.received
    (penalizing minuteAgo).Penalizes limiting Context.received "box" "a" minuteAgo ∧
      ∃ b, asking.answer? limiting c = some (ofBool b) ∧ (b = true ↔ 0 < minuteAgo.millis) := by
  intro c
  have told : (penalizing minuteAgo).Penalizes limiting Context.received "box" "a" minuteAgo :=
    .told _ rfl rfl
  obtain ⟨b, answer, -, just⟩ :=
    penalized_iff_positive_iff (q := asking) (by decide) told rfl rfl rfl
  exact ⟨told, b, answer, just.mpr (by unfold Instant.Undershoots; decide)⟩

/-- A time that leads a million years back penalizes for ever. -/
theorem million_years_ago_penalizes :
    ¬ (asking.answer? limiting ((penalizing millionYearsAgo).after limiting Context.received) =
      some (ofBool true) ↔ 0 < millionYearsAgo.millis) := by
  have penalized :
      asking.answer? limiting ((penalizing millionYearsAgo).after limiting Context.received) =
      some (ofBool true) := rfl
  exact fun positive => absurd (positive.mp penalized) (by decide)

end RateCall

end EdgeCache
