import EdgeCache.Proofs.Parameters
import Mathlib.Algebra.Order.Ring.Int

/-! Parts of a text by offset and length. The part that is asked for is given but where the end of
it, counted from the start of the text, does not fit into 64 bits. -/

namespace EdgeCache

namespace Builtin

variable {cs : List Char} {offset : Int64} {length : Option Int64}

def partStart (size offset : Int) : Int := if 0 ≤ offset then offset else size + offset

def partStop (size start : Int) : Option Int → Int
  | none => size
  | some n => if n < 0 then size + n else min (start + n) size

/-- The characters from where a part begins to where it ends, if these are places of the text in
that order. -/
def part? (cs : List Char) (offset : Int) (length : Option Int) : Option (List Char) :=
  let start := partStart cs.length offset
  let stop := partStop cs.length start length
  if 0 ≤ start ∧ start ≤ cs.length ∧ start ≤ stop then some ((cs.take stop.toNat).drop start.toNat)
  else none

/-- The part begins in the text, and its end does not fit into 64 bits. -/
def Overruns (size offset : Int) (length : Option Int) : Prop :=
  0 ≤ partStart size offset ∧ partStart size offset ≤ size ∧ ∃ n ∈ length,
    2 ^ 63 ≤ partStart size offset + n

section Arithmetic

variable (ε : Type) {a b : Int64}

theorem sum_of_bounds (lower : -2 ^ 63 ≤ a.toInt + b.toInt) (upper : a.toInt + b.toInt < 2 ^ 63) :
    (sum a b : Except (Stop ε) Int64) = .ok (a + b) ∧ (a + b).toInt = a.toInt + b.toInt := by
  refine ⟨if_pos ⟨lower, by rw [Int64.toInt_maxValue]; omega⟩, ?_⟩
  rw [Int64.toInt_add, Int.bmod_eq_of_le] <;> omega

theorem sum_of_overrun (upper : 2 ^ 63 ≤ a.toInt + b.toInt) :
    sum a b = .error (.panic : Stop ε) :=
  if_neg fun h => by
    have := h.2
    rw [Int64.toInt_maxValue] at this
    omega

theorem toInt_min (a b : Int64) : (min a b).toInt = min a.toInt b.toInt := by
  rw [show min a b = if a ≤ b then a else b from rfl, min_def]
  simp only [Int64.le_iff_toInt_le]
  split <;> rfl

theorem neg_iff : a < 0 ↔ a.toInt < 0 := by rw [Int64.lt_iff_toInt_lt, Int64.toInt_zero]

end Arithmetic

variable (ε : Type)

theorem toInt_size (held : cs.length < 2 ^ 63) : (Int64.ofInt cs.length).toInt = cs.length :=
  Int64.toInt_ofInt_of_le (by omega) (by omega)

theorem substringStart_eq (held : cs.length < 2 ^ 63) (offset : Int64) :
    ∃ start, (substringStart (.ofInt cs.length) offset : Except (Stop ε) Int64) = .ok start ∧
      start.toInt = partStart cs.length offset.toInt := by
  have size := toInt_size held
  have := offset.le_toInt
  unfold substringStart partStart
  by_cases back : offset < 0
  · have below := neg_iff.mp back
    obtain ⟨added, same⟩ :=
      sum_of_bounds ε (a := .ofInt cs.length) (b := offset) (by omega) (by omega)
    exact ⟨_, (if_pos back).trans added, by rw [if_neg (by omega), same, size]⟩
  · exact ⟨_, if_neg back, (if_pos (Int.not_lt.mp fun below => back (neg_iff.mpr below))).symm⟩

theorem substringStop_eq {start : Int64} (held : cs.length < 2 ^ 63) (inside : 0 ≤ start.toInt)
    (fits : ∀ n ∈ length, start.toInt + n.toInt < 2 ^ 63) :
    ∃ stop, (substringStop (.ofInt cs.length) start length : Except (Stop ε) Int64) = .ok stop ∧
      stop.toInt = partStop cs.length start.toInt (length.map Int64.toInt) := by
  have size := toInt_size held
  cases length with
  | none => exact ⟨_, rfl, size⟩
  | some n =>
    have := n.le_toInt
    have := fits n rfl
    rw [Option.map_some, substringStop, partStop]
    by_cases back : n < 0
    · have below := neg_iff.mp back
      obtain ⟨added, same⟩ := sum_of_bounds ε (a := .ofInt cs.length) (b := n) (by omega) (by omega)
      exact ⟨_, (if_pos back).trans added, by rw [if_pos below, same, size]⟩
    · have ahead : ¬ n.toInt < 0 := fun below => back (neg_iff.mpr below)
      obtain ⟨added, same⟩ := sum_of_bounds ε (a := start) (b := n) (by omega) (by omega)
      refine ⟨min (start + n) (.ofInt cs.length), ?_, by rw [if_neg ahead, toInt_min, same, size]⟩
      rw [if_neg back, added]
      rfl

theorem substringStop_of_overrun {start n : Int64} (size : Int64) (ahead : 0 ≤ n.toInt)
    (beyond : 2 ^ 63 ≤ start.toInt + n.toInt) :
    (substringStop size start (some n) : Except (Stop ε) Int64) = .error .panic := by
  rw [substringStop, if_neg fun back => Int.not_lt.mpr ahead (neg_iff.mp back),
    sum_of_overrun ε beyond]
  rfl

theorem substring?_of_outside (held : cs.length < 2 ^ 63)
    (outside : ¬ (0 ≤ partStart cs.length offset.toInt ∧
      partStart cs.length offset.toInt ≤ cs.length)) :
    (substring? cs offset length : Except (Stop ε) _) = .ok none := by
  obtain ⟨start, begun, begins⟩ := substringStart_eq ε held offset
  have size := toInt_size held
  unfold substring?
  dsimp only
  rw [begun]
  exact if_pos (by rw [neg_iff, Int64.lt_iff_toInt_lt, begins, size]; omega)

theorem substring?_of_inside {start : Int64} (held : cs.length < 2 ^ 63)
    (begun : (substringStart (.ofInt cs.length) offset : Except (Stop ε) Int64) = .ok start)
    (lower : 0 ≤ start.toInt) (upper : start.toInt ≤ cs.length) :
    (substring? cs offset length : Except (Stop ε) _) = do
      let stop ← substringStop (.ofInt cs.length) start length
      if stop < start then return none
      return some ((cs.drop start.toInt.toNat).take (stop.toInt - start.toInt).toNat) := by
  have size := toInt_size held
  unfold substring?
  dsimp only
  rw [begun]
  exact if_neg (by rw [neg_iff, Int64.lt_iff_toInt_lt, size]; omega)

theorem substring?_of_fits (held : cs.length < 2 ^ 63)
    (fits : ¬ Overruns cs.length offset.toInt (length.map Int64.toInt)) :
    (substring? cs offset length : Except (Stop ε) _) =
      .ok (part? cs offset.toInt (length.map Int64.toInt)) := by
  unfold part?
  dsimp only
  by_cases inside :
    0 ≤ partStart cs.length offset.toInt ∧ partStart cs.length offset.toInt ≤ cs.length
  · obtain ⟨start, begun, begins⟩ := substringStart_eq ε held offset
    rw [← begins] at inside ⊢
    obtain ⟨lower, upper⟩ := inside
    have reaches (n : Int64) (hn : n ∈ length) : start.toInt + n.toInt < 2 ^ 63 :=
      Int.not_le.mp fun beyond =>
        fits ⟨begins ▸ lower, begins ▸ upper, _, Option.mem_map_of_mem _ hn, begins ▸ beyond⟩
    obtain ⟨stop, ended, ends⟩ := substringStop_eq ε held lower reaches
    rw [substring?_of_inside ε held begun lower upper, ended, ← ends]
    change (if stop < start then .ok none else .ok (some _)) = Except.ok (ε := Stop ε) _
    by_cases back : stop < start
    · have behind := Int64.lt_iff_toInt_lt.mp back
      rw [if_pos back, if_neg (by omega)]
    · have ahead := mt Int64.lt_iff_toInt_lt.mpr back
      rw [if_neg back, if_pos ⟨lower, upper, by omega⟩, List.drop_take,
        show (stop.toInt - start.toInt).toNat = stop.toInt.toNat - start.toInt.toNat by omega]
  · rw [substring?_of_outside ε held inside, if_neg fun h => inside ⟨h.1, h.2.1⟩]

theorem substring?_of_overruns (held : cs.length < 2 ^ 63)
    (beyond : Overruns cs.length offset.toInt (length.map Int64.toInt)) :
    (substring? cs offset length : Except (Stop ε) _) = .error .panic := by
  obtain ⟨lower, upper, _, given, beyond⟩ := beyond
  obtain ⟨n, rfl, rfl⟩ := Option.map_eq_some_iff.mp given
  obtain ⟨start, begun, begins⟩ := substringStart_eq ε held offset
  have := n.toInt_lt
  rw [← begins] at lower upper beyond
  rw [substring?_of_inside ε held begun lower upper, substringStop_of_overrun ε _ (by omega) beyond]
  rfl

theorem part?_of_overruns {offset : Int} {length : Option Int} (held : cs.length < 2 ^ 63)
    (beyond : Overruns cs.length offset length) :
    part? cs offset length = some (cs.drop (partStart cs.length offset).toNat) := by
  obtain ⟨lower, upper, n, rfl, beyond⟩ := beyond
  have stop : partStop cs.length (partStart cs.length offset) (some n) = cs.length := by
    rw [partStop, if_neg (by omega), min_eq_right (by omega)]
  unfold part?
  dsimp only
  rw [stop, if_pos ⟨lower, upper, upper⟩, Int.toNat_natCast, List.take_length]

def partArguments (s : String) (offset : Int64) (length : Option Int64) (a b c : Marks) :
    List Value :=
  [.string s a, .integer offset b] ++ (length.map fun n => .integer n c).toList

theorem run_substr (s : String) (offset : Int64) (length : Option Int64) (a b c : Marks) :
    ∃ f, ofName? "substr" = some f ∧ ∀ env d, f.run env (partArguments s offset length a b c) d =
      (do return found (← ofExcept (substring? s.toList offset length)) : EStateM _ _ _) d := by
  cases length <;> exact ⟨_, rfl, fun _ _ => rfl⟩

variable {s : String} {a b c : Marks}

theorem answers_substr {part : Option (List Char)}
    (computed : substring? s.toList offset length = (.ok part : Except (Stop FunctionError) _)) :
    Answers "substr" (partArguments s offset length a b c) (found part) := by
  obtain ⟨f, known, ran⟩ := run_substr s offset length a b c
  exact ⟨f, known, fun env d => by rw [ran, computed]; rfl⟩

theorem panics_substr
    (computed : substring? s.toList offset length = .error (.panic : Stop FunctionError)) :
    Panics "substr" (partArguments s offset length a b c) := by
  obtain ⟨f, known, ran⟩ := run_substr s offset length a b c
  exact ⟨f, known, fun env d => by rw [ran, computed]; rfl⟩

/-- A part of a text is what is asked for exactly if the place of its end, reckoned from an offset
and a length that may each be below zero, fits into 64 bits. Otherwise the part goes to the end of
the text, and the call panics. -/
theorem substr_iff (s : String) (offset : Int64) (length : Option Int64) (a b c : Marks)
    (held : s.length < 2 ^ 63) :
    let call := partArguments s offset length a b c
    let part := part? s.toList offset.toInt (length.map Int64.toInt)
    let start := partStart s.length offset.toInt
    (Answers "substr" call (found part) ↔
      ¬ Overruns s.length offset.toInt (length.map Int64.toInt)) ∧
      (Overruns s.length offset.toInt (length.map Int64.toInt) →
        part = some (s.toList.drop start.toNat) ∧ Panics "substr" call) := by
  dsimp only
  rw [← String.length_toList] at held ⊢
  by_cases beyond : Overruns s.toList.length offset.toInt (length.map Int64.toInt)
  · have panics : Panics "substr" (partArguments s offset length a b c) :=
      panics_substr (substring?_of_overruns _ held beyond)
    exact ⟨iff_of_false panics.not_answers (not_not_intro beyond),
      fun _ => ⟨part?_of_overruns held beyond, panics⟩⟩
  · exact ⟨iff_of_true (answers_substr (substring?_of_fits _ held beyond)) beyond,
      fun beyond' => absurd beyond' beyond⟩

theorem substr_iff_fromEnd : "abcdef".length < 2 ^ 63 ∧
    Answers "substr" (partArguments "abcdef" (-4) (some (-1)) .plain .plain .plain)
      (.ofString "cde") := by
  have held : "abcdef".length < 2 ^ 63 := by decide
  have fits : ¬ Overruns "abcdef".length (-4) (some (-1)) := by
    rintro ⟨-, -, n, ⟨⟩, beyond⟩
    revert beyond
    decide
  exact ⟨held, (substr_iff "abcdef" (-4) (some (-1)) .plain .plain .plain held).1.mpr fits⟩

/-- All but the first of three characters, asked for with the greatest length of all, are not
given. -/
theorem greatest_length_panics :
    part? "abc".toList 1 (some Int64.maxValue.toInt) = some "bc".toList ∧
      Panics "substr" (partArguments "abc" 1 (some Int64.maxValue) .plain .plain .plain) :=
  ⟨by decide, panics_substr rfl⟩

end Builtin

end EdgeCache
