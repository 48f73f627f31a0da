import EdgeCache.Proofs.Atomic

/-! What calls that limit rates leave behind. The count of an entry of a counter is the sum of what
was counted for just that pair, and the expiry of an entry in a box only changes where a call
penalizes just that entry in that box. -/

namespace EdgeCache

open Arguments (string integer rtime)
open Value (ofBool ofInteger)
open Builtin (count saturatingSum isPenalized penalize expiry)

inductive Limiter where
  | count
  | check
  | penalize
  | penalized
  deriving Repr, DecidableEq

namespace Limiter

def builtin : Limiter → Builtin
  | count => .make "ratelimit.ratecounter_increment" [.ident, .string, .integer] [] Builtin.addCount
  | check =>
    .make "ratelimit.check_rate" [.string, .ident, .integer, .integer, .integer, .ident, .rtime]
      [] Builtin.checkRate
  | penalize =>
    (Builtin.make "ratelimit.penaltybox_add" [.ident, .string, .rtime]
      [] Builtin.addPenalty).asStatement
  | penalized => .make "ratelimit.penaltybox_has" [.ident, .string] [] Builtin.hasPenalty

theorem rates_eq : Builtin.rates = [count, check, penalize, penalized].map builtin := rfl

theorem builtin_mem (f : Limiter) : f.builtin ∈ Builtin.library := by
  have listed : f.builtin ∈ Builtin.rates := by
    rw [rates_eq]
    exact List.mem_map_of_mem (by cases f <;> decide)
  simp only [Builtin.library, List.mem_append]
  exact .inl (.inl (.inr listed))

end Limiter

namespace Context

def expiry? (c : Context) (box entry : String) : Option Instant :=
  ((c.penalties.get? box).getD .empty).get? entry

def counted (c : Context) (counter entry : String) (delta : Int64) : Context :=
  { c with
    counts := c.counts.put counter
      (((c.counts.get? counter).getD .empty).put entry
        (saturatingSum (count c counter entry) delta)) }

variable (c : Context) (now : Instant) (counter entry box : String) (delta : Int64) (ttl : Duration)

theorem count_counted (k e : String) :
    count (c.counted counter entry delta) k e =
      if counter = k ∧ entry = e then saturatingSum (count c k e) delta else count c k e := by
  unfold count counted
  rw [Register.get?_put]
  by_cases hk : counter = k
  · subst hk
    rw [if_pos rfl, Option.getD_some, Register.get?_put]
    by_cases he : entry = e
    · subst he
      rw [if_pos rfl, if_pos ⟨rfl, rfl⟩]
      rfl
    · rw [if_neg fun same => he same.symm, if_neg fun same => he same.2]
  · rw [if_neg fun same => hk same.symm, if_neg fun same => hk same.1]

theorem expiry?_penalize (b e : String) :
    (penalize now c box entry ttl).expiry? b e = if box = b ∧ entry = e then some (expiry now ttl)
    else c.expiry? b e := by
  unfold expiry? penalize
  rw [Register.get?_put]
  by_cases hb : box = b
  · subst hb
    rw [if_pos rfl, Option.getD_some, Register.get?_put]
    by_cases he : entry = e
    · rw [if_pos he.symm, if_pos ⟨rfl, he⟩]
    · rw [if_neg fun same => he same.symm, if_neg fun same => he same.2]
  · rw [if_neg fun same => hb same.symm, if_neg fun same => hb same.1]

@[simp]
theorem expiry?_counted : (c.counted counter entry delta).expiry? = c.expiry? := rfl

@[simp]
theorem count_penalize : count (penalize now c box entry ttl) = count c := rfl

theorem isPenalized_eq : isPenalized now c box entry = (c.expiry? box entry).any now.lt := rfl

end Context

/-- A call of a function that limits rates, with whatever arguments. -/
structure RateCall where
  function : Limiter
  args : List Value

namespace RateCall

def run (env : Environment) (k : RateCall) : EStateM (Stop FunctionError) Context Value :=
  k.function.builtin.run env k.args

def answer? (env : Environment) (c : Context) (k : RateCall) : Option Value :=
  match k.run env c with
  | .ok v _ => some v
  | .error _ _ => none

def after (env : Environment) (c : Context) (k : RateCall) : Context :=
  match k.run env c with
  | .ok _ d => d
  | .error _ d => d

def counter? (k : RateCall) : Option (String × String) :=
  match k.function with
  | .count => some (Arguments.name k.args 0, string k.args 1)
  | .check => some (Arguments.name k.args 1, string k.args 0)
  | .penalize | .penalized => none

def box? (k : RateCall) : Option (String × String) :=
  match k.function with
  | .count => none
  | .check => some (Arguments.name k.args 5, string k.args 0)
  | .penalize | .penalized => some (Arguments.name k.args 0, string k.args 1)

inductive Effect (env : Environment) (c : Context) : RateCall → Option Value → Context → Prop
  | failed (k : RateCall) : Effect env c k none c
  | counted (args : List Value) :
    Effect env c ⟨.count, args⟩
      (some (ofInteger (saturatingSum (count c (Arguments.name args 0) (string args 1))
        (integer args 2))))
      (c.counted (Arguments.name args 0) (string args 1) (integer args 2))
  | held (args : List Value)
    (penalized : isPenalized env.now c (Arguments.name args 5) (string args 0) = true) :
    Effect env c ⟨.check, args⟩ (some (ofBool true)) c
  | exceeding (args : List Value)
    (free : isPenalized env.now c (Arguments.name args 5) (string args 0) = false)
    (above : integer args 4 <
      saturatingSum (count c (Arguments.name args 1) (string args 0)) (integer args 2) /
        integer args 3) :
    Effect env c ⟨.check, args⟩ (some (ofBool true))
      (penalize env.now (c.counted (Arguments.name args 1) (string args 0) (integer args 2))
        (Arguments.name args 5) (string args 0) (rtime args 6))
  | allowed (args : List Value)
    (free : isPenalized env.now c (Arguments.name args 5) (string args 0) = false)
    (fits : ¬ integer args 4 <
      saturatingSum (count c (Arguments.name args 1) (string args 0)) (integer args 2) /
        integer args 3) :
    Effect env c ⟨.check, args⟩ (some (ofBool false))
      (c.counted (Arguments.name args 1) (string args 0) (integer args 2))
  | penalized (args : List Value) :
    Effect env c ⟨.penalize, args⟩ (some .null)
      (penalize env.now c (Arguments.name args 0) (string args 1) (rtime args 2))
  | asked (args : List Value) :
    Effect env c ⟨.penalized, args⟩
      (some (ofBool (isPenalized env.now c (Arguments.name args 0) (string args 1)))) c

section Effect

variable {env : Environment} {c d : Context} {args : List Value} {v : Value}

theorem effect_of_addCount (h : Builtin.addCount env args c = .ok v d) :
    Effect env c ⟨.count, args⟩ (some v) d := by
  cases Builtin.run_check h
  exact .counted args

theorem effect_of_checkRate (h : Builtin.checkRate env args c = .ok v d) :
    Effect env c ⟨.check, args⟩ (some v) d := by
  have h := Builtin.run_check (Builtin.run_check h)
  split at h
  · cases h
  obtain ⟨_, _, read, h⟩ := run_bind_eq_ok h
  cases read
  by_cases held : isPenalized env.now c (Arguments.name args 5) (string args 0) = true
  · rw [if_pos held] at h
    cases h
    exact .held args held
  have free := Bool.eq_false_iff.mpr held
  rw [if_neg held] at h
  obtain ⟨n, _, counted, h⟩ := run_bind_eq_ok h
  cases counted
  split at h <;> cases h
  · exact .exceeding args free ‹_›
  · exact .allowed args free ‹_›

theorem effect_of_addPenalty (h : Builtin.addPenalty env args c = .ok v d) :
    Effect env c ⟨.penalize, args⟩ (some v) d := by
  cases Builtin.run_check h
  exact .penalized args

theorem effect_of_hasPenalty (h : Builtin.hasPenalty env args c = .ok v d) :
    Effect env c ⟨.penalized, args⟩ (some v) d := by
  cases Builtin.run_check h
  exact .asked args

theorem effect (env : Environment) (c : Context) (k : RateCall) :
    Effect env c k (k.answer? env c) (k.after env c) := by
  obtain ⟨f, args⟩ := k
  unfold answer? after
  cases ran : run env ⟨f, args⟩ c with
  | error e d =>
    obtain rfl := Builtin.run_atomic f.builtin_mem env args c e d ran
    exact .failed _
  | ok v d =>
    have ran : f.builtin.body env args c = .ok v d := Builtin.body_of_run ran
    cases f with
    | count => exact effect_of_addCount ran
    | check => exact effect_of_checkRate ran
    | penalize => exact effect_of_addPenalty ran
    | penalized => exact effect_of_hasPenalty ran

end Effect

def isHeld (env : Environment) (c : Context) (k : RateCall) : Bool :=
  match k.function with
  | .check => isPenalized env.now c (Arguments.name k.args 5) (string k.args 0)
  | _ => false

/-- What a call counts for an entry of a counter: it is one on that pair, succeeds, and no check of
an entry that is penalized. -/
def delta? (env : Environment) (counter entry : String) (c : Context) (k : RateCall) :
    Option Int64 :=
  if (k.answer? env c).isSome ∧ k.counter? = some (counter, entry) ∧ k.isHeld env c = false then
    some (integer k.args 2)
  else none

def deltas (env : Environment) (counter entry : String) : Context → List RateCall → List Int64
  | _, [] => []
  | c, k :: ks =>
    (k.delta? env counter entry c).toList ++ deltas env counter entry (k.after env c) ks

def afterAll (env : Environment) (c : Context) (ks : List RateCall) : Context :=
  ks.foldl (after env) c

/-- A call that puts another expiry in the place of that of an entry in a box. -/
def Replaces (env : Environment) (box entry : String) (c : Context) (k : RateCall) : Prop :=
  k.function = .penalize ∧ k.box? = some (box, entry) ∧ (k.answer? env c).isSome

def saturated (n : Int) : Int := max (-9223372036854775808) (min 9223372036854775807 n)

theorem toInt_saturatingSum (a b : Int64) :
    (saturatingSum a b).toInt = saturated (a.toInt + b.toInt) := by
  have least : Int64.minValue.toInt = -9223372036854775808 := rfl
  have greatest : Int64.maxValue.toInt = 9223372036854775807 := rfl
  unfold saturatingSum saturated
  rw [least, greatest, Int64.toInt_ofInt_of_le] <;> omega

section Steps

variable {env : Environment} {c : Context} {k : RateCall} {counter box entry : String} {v : Value}

theorem count_after (env : Environment) (c : Context) (k : RateCall) (counter entry : String) :
    count (k.after env c) counter entry =
      ((k.delta? env counter entry c).map (saturatingSum (count c counter entry))).getD
        (count c counter entry) := by
  have effect := k.effect env c
  unfold delta?
  generalize k.answer? env c = answer at *
  generalize k.after env c = d at *
  cases effect with
  | failed => simp
  | held args penalized => simp [isHeld, penalized]
  | counted args =>
    rw [Context.count_counted]
    simp only [counter?, isHeld, Option.isSome_some, true_and, and_true, Option.some.injEq,
      Prod.mk.injEq]
    split <;> rfl
  | exceeding args free =>
    rw [Context.count_penalize, Context.count_counted]
    simp only [counter?, isHeld, free, Option.isSome_some, true_and, and_true, Option.some.injEq,
      Prod.mk.injEq]
    split <;> rfl
  | allowed args free =>
    rw [Context.count_counted]
    simp only [counter?, isHeld, free, Option.isSome_some, true_and, and_true, Option.some.injEq,
      Prod.mk.injEq]
    split <;> rfl
  | penalized args => simp [counter?]
  | asked args => simp [counter?]

theorem expiry?_after (h : k.box? ≠ some (box, entry)) :
    (k.after env c).expiry? box entry = c.expiry? box entry := by
  have effect := k.effect env c
  generalize k.answer? env c = answer at *
  generalize k.after env c = d at *
  cases effect with
  | failed | counted | held | allowed | asked => rfl
  | exceeding args =>
    rw [Context.expiry?_penalize, if_neg fun same => h (by rw [box?, same.1, same.2]),
      Context.expiry?_counted]
  | penalized args =>
    rw [Context.expiry?_penalize, if_neg fun same => h (by rw [box?, same.1, same.2])]

theorem after_of_failed (h : k.answer? env c = none) : k.after env c = c := by
  have effect := k.effect env c
  rw [h] at effect
  generalize k.after env c = d at *
  cases effect
  rfl

theorem check_answer (hk : k.function = .check) (hb : k.box? = some (box, entry))
    (hv : k.answer? env c = some v) :
    if isPenalized env.now c box entry then v = ofBool true ∧ k.after env c = c
    else
      v = ofBool true ∧ (k.after env c).expiry? box entry = some (expiry env.now (rtime k.args 6)) ∨
        v = ofBool false ∧ (k.after env c).expiry? box entry = c.expiry? box entry := by
  have effect := k.effect env c
  rw [hv] at effect
  generalize k.after env c = d at *
  cases effect with
  | counted | penalized | asked => cases hk
  | held args penalized =>
    cases hb
    rw [if_pos penalized]
    exact ⟨rfl, rfl⟩
  | exceeding args free =>
    cases hb
    rw [if_neg (by simp [free]), Context.expiry?_penalize, if_pos ⟨rfl, rfl⟩]
    exact .inl ⟨rfl, rfl⟩
  | allowed args free =>
    cases hb
    rw [if_neg (by simp [free])]
    exact .inr ⟨rfl, rfl⟩

theorem isPenalized_after (h : isPenalized env.now c box entry = true)
    (hk : ¬ k.Replaces env box entry c) :
    isPenalized env.now (k.after env c) box entry = true := by
  by_cases hb : k.box? = some (box, entry)
  · have effect := k.effect env c
    unfold Replaces at hk
    generalize k.answer? env c = answer at *
    generalize k.after env c = d at *
    cases effect with
    | failed | held | asked => exact h
    | counted => cases hb
    | exceeding args free | allowed args free =>
      cases hb
      exact absurd h (by simp [free])
    | penalized => exact absurd ⟨rfl, hb, rfl⟩ hk
  · rwa [Context.isPenalized_eq, expiry?_after hb]

end Steps

section Histories

variable {env : Environment} {c : Context} {ks : List RateCall} {counter box entry : String}

theorem count_afterAll (env : Environment) (c : Context) (ks : List RateCall)
    (counter entry : String) :
    count (afterAll env c ks) counter entry =
      (deltas env counter entry c ks).foldl saturatingSum (count c counter entry) := by
  induction ks generalizing c with
  | nil => rfl
  | cons k ks ih =>
    rw [deltas, List.foldl_append, afterAll, List.foldl_cons]
    refine (ih (k.after env c)).trans (congrArg (fun n => List.foldl saturatingSum n _) ?_)
    rw [count_after]
    cases k.delta? env counter entry c <;> rfl

theorem toInt_foldl_saturatingSum (n : Int64) (ds : List Int64) :
    (ds.foldl saturatingSum n).toInt = ds.foldl (fun sum d => saturated (sum + d.toInt))
      n.toInt := by
  induction ds generalizing n with
  | nil => rfl
  | cons d ds ih => rw [List.foldl_cons, List.foldl_cons, ih, toInt_saturatingSum]

theorem isPenalized_afterAll (h : isPenalized env.now c box entry = true)
    (hks : ∀ before k rest, ks = before ++ k :: rest →
      ¬ k.Replaces env box entry (afterAll env c before)) :
    isPenalized env.now (afterAll env c ks) box entry = true := by
  induction ks generalizing c with
  | nil => exact h
  | cons k ks ih =>
    have first := isPenalized_after h (hks [] k ks rfl)
    exact ih first fun before q rest same => hks (k :: before) q rest
      (by rw [same, List.cons_append])

/-- The count of an entry of a counter is the sum, cut to 64 bits at each step, of what the calls
counted for that pair; it starts at zero. A check of an entry that is penalized answers so and
changes nothing; any other one penalizes its entry exactly when it says that the rate is exceeded.
Calls about another pair leave the count or the expiry alone, and those that fail leave everything.
So an entry stays penalized until another expiry is put in place. -/
theorem rates_per_pair (env : Environment) (c : Context) (counter box entry : String) :
    (∀ ks, (count (afterAll env c ks) counter entry).toInt =
      (deltas env counter entry c ks).foldl (fun sum d => saturated (sum + d.toInt))
        (count c counter entry).toInt) ∧
    (∀ request client port g, count (.start env request client port g) counter entry = 0) ∧
    (∀ (k : RateCall) v, k.function = .check → k.box? = some (box, entry) →
      k.answer? env c = some v →
      if isPenalized env.now c box entry then v = ofBool true ∧ k.after env c = c
      else
        v = ofBool true ∧ (k.after env c).expiry? box entry = some
          (expiry env.now (rtime k.args 6)) ∨
          v = ofBool false ∧ (k.after env c).expiry? box entry = c.expiry? box entry) ∧
    (∀ k : RateCall,
      (k.counter? ≠ some (counter, entry) →
        count (k.after env c) counter entry = count c counter entry) ∧
      (k.box? ≠ some (box, entry) → (k.after env c).expiry? box entry = c.expiry? box entry) ∧
      (k.answer? env c = none → k.after env c = c)) ∧
    (isPenalized env.now c box entry = true → ∀ ks : List RateCall,
      (∀ before k rest, ks = before ++ k :: rest →
        ¬ k.Replaces env box entry (afterAll env c before)) →
      ∀ (k : RateCall) v, k.function = .check → k.box? = some (box, entry) →
        k.answer? env (afterAll env c ks) = some v →
        v = ofBool true) := by
  refine ⟨fun ks => ?_, fun _ _ _ _ => rfl, fun k v => check_answer,
    fun k => ⟨fun other => ?_, expiry?_after, after_of_failed⟩,
      fun penalized ks hks k v hk hb hv => ?_⟩
  · rw [count_afterAll, toInt_foldl_saturatingSum]
  · rw [count_after, delta?, if_neg fun own => other own.2.1]
    rfl
  · have answer := check_answer hk hb hv
    rw [if_pos (isPenalized_afterAll penalized hks)] at answer
    exact answer.1

def limiting : Environment :=
  .of { Declarations.empty with
    ratecounters := [⟨.unknown, "hits"⟩]
    penaltyboxes := [⟨.unknown, "box"⟩] } .standard

def checking (entry : String) (delta : Int64) : RateCall :=
  ⟨.check, [.ofString entry, .ident "hits", .ofInteger delta, .ofInteger 10, .ofInteger 2,
    .ident "box", .ofRTime ⟨60000, by decide⟩]⟩

def counting (entry : String) (delta : Int64) : RateCall :=
  ⟨.count, [.ident "hits", .ofString entry, .ofInteger delta]⟩

theorem rates_per_pair_exceeded :
    let calls := [counting "a" 3, checking "b" 7, checking "a" 30, checking "a" 30]
    let c := afterAll limiting Context.received calls
    (count c "hits" "a").toInt = 33 ∧ isPenalized limiting.now c "box" "a" = true ∧
      (checking "a" 1).answer? limiting (afterAll limiting c [checking "b" 9, counting "a" (-33)]) =
        some (ofBool true) := by
  intro calls c
  have summed := (rates_per_pair limiting Context.received "hits" "box" "a").1 calls
  have penalized : isPenalized limiting.now c "box" "a" = true := by decide +kernel
  refine ⟨summed.trans (by decide +kernel), penalized, ?_⟩
  have given : ((checking "a" 1).answer? limiting
      (afterAll limiting c [checking "b" 9, counting "a" (-33)])).isSome = true := by decide +kernel
  obtain ⟨v, answered⟩ := Option.isSome_iff_exists.mp given
  have undisturbed : ∀ before k rest, [checking "b" 9, counting "a" (-33)] = before ++ k :: rest →
      ¬ k.Replaces limiting "box" "a" (afterAll limiting c before) := by
    intro before k rest same replaces
    have member : k ∈ [checking "b" 9, counting "a" (-33)] :=
      same ▸ List.mem_append_right before (List.mem_cons_self ..)
    simp only [List.mem_cons, List.not_mem_nil, or_false] at member
    rcases member with rfl | rfl <;> cases replaces.1
  rw [answered, (rates_per_pair limiting c "hits" "box" "a").2.2.2.2 penalized _ undisturbed _ v rfl
    rfl answered]

end Histories

end RateCall

end EdgeCache
