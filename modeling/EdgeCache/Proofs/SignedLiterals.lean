import EdgeCache.Proofs.Numerals
import EdgeCache.Proofs.Saturation
import EdgeCache.Run.Expression

/-! Relative times written as a numeral and a unit, with and without a minus sign. Opposite texts
give opposite durations, or neither gives one, but where the milliseconds leave 64 bits: there the
positive text gives the greatest duration. -/

namespace EdgeCache

namespace Duration

open Binary64 Decimal

inductive TimeUnit where
  | ms
  | s
  | m
  | h
  | d
  | y

namespace TimeUnit

def name : TimeUnit → List Char
  | ms => ['m', 's']
  | s => ['s']
  | m => ['m']
  | h => ['h']
  | d => ['d']
  | y => ['y']

def millis : TimeUnit → ℕ
  | ms => 1
  | s => 1000
  | m => 60000
  | h => 3600000
  | d => 86400000
  | y => 31536000000

def scale (u : TimeUnit) : Float := Float.ofScientific (10 * u.millis) true 1

theorem isBlank_eq_false {u : TimeUnit} {c : Char} (h : c ∈ u.name) : Blank.isBlank c = false := by
  have all : u.name.all (fun c => !Blank.isBlank c) = true := by cases u <;> decide +kernel
  simpa using List.all_eq_true.mp all c h

theorem unit?_name (u : TimeUnit) : unit? u.name = some u.scale := by cases u <;> rfl

theorem exists_power (u : TimeUnit) :
    ∃ l : ℕ, l ≤ 34 ∧ (2 : ℚ) ^ (l : ℤ) ≤ u.millis ∧ (u.millis : ℚ) + 1 ≤ 2 ^ ((l : ℤ) + 1) := by
  have bounds : u.millis.log2 ≤ 34 ∧ 2 ^ u.millis.log2 ≤ u.millis ∧
      u.millis + 1 ≤ 2 ^ (u.millis.log2 + 1) := by
    cases u <;> decide
  obtain ⟨few, low, high⟩ := bounds
  exact ⟨u.millis.log2, few, by exact_mod_cast low, by exact_mod_cast high⟩

end TimeUnit

theorem isLetter_eq_false {c : Char} (h : c ∈ '-' :: marks) : isLetter c = false := by
  have all : ('-' :: marks).all (fun c => !isLetter c) = true := by decide +kernel
  simpa using List.all_eq_true.mp all c h

def literal (negative : Bool) (t : Numeral) (u : TimeUnit) : String :=
  String.ofList (minus negative t.text ++ u.name)

variable {t : Numeral} {u : TimeUnit}

theorem abs_millis_le (u : TimeUnit) : |(u.millis : ℤ)| ≤ 2 ^ 53 := by cases u <;> decide

theorem value_scale (u : TimeUnit) : isFinite u.scale = true ∧ value u.scale = u.millis :=
  Rounds.value_intCast (k := u.millis) (rounds_tenth u.millis) (abs_millis_le u)

def ofFloatMillis? (x : Float) : Option Duration := if isFinite x then ofMillis? (roundMillis x)
    else none

theorem read?_literal (negative : Bool) (t : Numeral) (u : TimeUnit) :
    read? (literal negative t u) =
      ofFloatMillis? ((if negative then -t.double else t.double) * u.scale) := by
  have amount : ∀ c ∈ minus negative t.text, c ∈ '-' :: marks :=
    fun c => mem_of_mem_minus fun c => Numeral.mem_marks
  have some : u.name.isEmpty = false := by cases u <;> rfl
  have trimmed : Blank.trim (minus negative t.text ++ u.name) = minus negative t.text ++ u.name :=
    Blank.trim_of_not_blank fun c h =>
      (List.mem_append.mp h).elim (fun h => isBlank_eq_false (amount c h)) TimeUnit.isBlank_eq_false
  -- Numerals have no letters and units nothing else, so that the text splits where the unit starts.
  have front :
      (minus negative t.text ++ u.name).takeWhile (!isLetter ·) = minus negative t.text := by
    have stop : u.name.takeWhile (!isLetter ·) = [] := by cases u <;> rfl
    rw [List.takeWhile_append_of_pos fun c h => by rw [isLetter_eq_false (amount c h)]; rfl, stop,
      List.append_nil]
  have back : (minus negative t.text ++ u.name).dropWhile (!isLetter ·) = u.name := by
    rw [List.dropWhile_append_of_pos fun c h => by rw [isLetter_eq_false (amount c h)]; rfl]
    cases u <;> rfl
  unfold read? literal
  rw [String.toList_ofList]
  dsimp only
  rw [trimmed, front, back, some, Numeral.read?_text, TimeUnit.unit?_name]
  rfl

def product (t : Numeral) (u : TimeUnit) : Float := t.double * u.scale

theorem pos_millis (u : TimeUnit) : (0 : ℚ) < u.millis := by
  have pos : 0 < u.millis := by cases u <;> decide
  exact_mod_cast pos

theorem product_neg (t : Numeral) (u : TimeUnit) :
    isFinite (-t.double * u.scale) = isFinite (product t u) ∧
    value (-t.double * u.scale) = -value (product t u) := by
  obtain ⟨finite, same⟩ := value_scale u
  exact mul_neg_left t.rounds_double.1 finite (same ▸ pos_millis u)

theorem isNaN_product (t : Numeral) (u : TimeUnit) : isNaN (product t u) = false := by
  obtain ⟨finite, same⟩ := value_scale u
  exact isNaN_mul t.rounds_double.1 finite (same ▸ pos_millis u)

theorem one_le_scale (u : TimeUnit) : 1 ≤ value u.scale := by
  have one : 1 ≤ u.millis := by cases u <;> decide
  rw [(value_scale u).2]
  exact_mod_cast one

theorem value_product_nonneg (t : Numeral) (u : TimeUnit) : 0 ≤ value (product t u) := by
  have onGrid := onGrid_intCast (n := 0) (by norm_num)
  rw [Int.cast_zero] at onGrid
  have least : 0 ≤ value t.double * value u.scale :=
    mul_nonneg t.value_double_nonneg (zero_le_one.trans (one_le_scale u))
  exact le_value_mul t.rounds_double.1 (value_scale u).1 (one_le_scale u) onGrid bound_pos.le least

theorem value_product_lt {n : ℤ} (least : 0 ≤ n) (most : n ≤ 1023)
    (below : t.value * u.millis ≤ 2 ^ n) :
    value (product t u) < 2 ^ (n + 1) := by
  -- A bound on the product bounds the numeral by a power of two, which rounding it does not pass;
  -- nor does the product of both doubles pass that power times the unit.
  obtain ⟨l, few, low, high⟩ := u.exists_power
  obtain ⟨finite, same⟩ := value_scale u
  have room : (0 : ℚ) < 2 ^ (n - l) := zpow_pos (by norm_num) _
  have parts : (2 : ℚ) ^ (n - l) * 2 ^ (l : ℤ) = 2 ^ n := by
    rw [← zpow_add₀ (by norm_num), sub_add_cancel]
  have numeral : t.value ≤ 2 ^ (n - l) := by
    have scale : (0 : ℚ) < 2 ^ (l : ℤ) := zpow_pos (by norm_num) _
    refine le_of_mul_le_mul_right ?_ scale
    exact ((mul_le_mul_of_nonneg_left low t.value_nonneg).trans below).trans_eq parts.symm
  have onGrid : OnGrid (2 ^ (n - l)) := onGrid_two_zpow (by omega)
  have double : value t.double ≤ 2 ^ (n - l) :=
    t.rounds_double.value_le onGrid ((neg_nonpos.mpr bound_pos.le).trans room.le) numeral
  have onGrid' : OnGrid (2 ^ (n - l) * u.millis) :=
    ⟨u.millis, n - l, abs_millis_le u, by omega, by push_cast; ring⟩
  have least' : -bound ≤ 2 ^ (n - l) * u.millis :=
    (neg_nonpos.mpr bound_pos.le).trans (mul_nonneg room.le (pos_millis u).le)
  have below' : value t.double * value u.scale ≤ 2 ^ (n - l) * u.millis := by
    rw [same]
    exact mul_le_mul_of_nonneg_right double (pos_millis u).le
  calc value (product t u) ≤ 2 ^ (n - l) * u.millis :=
        value_mul_le t.rounds_double.1 finite (one_le_scale u) onGrid' least' below'
    _ < 2 ^ (n - l) * 2 ^ ((l : ℤ) + 1) := mul_lt_mul_of_pos_left (by linarith) room
    _ = 2 ^ (n + 1) := by
      rw [← zpow_add₀ (by norm_num)]
      congr 1
      ring

theorem le_value_product (above : 2 * limit ≤ t.value * u.millis) :
    2 ^ 63 ≤ value (product t u) := by
  -- With the unit brought down to a power of two the product loses less than a factor of two, and
  -- powers of two are kept by both roundings.
  obtain ⟨l, few, low, high⟩ := u.exists_power
  obtain ⟨finite, same⟩ := value_scale u
  have room : (0 : ℚ) < 2 ^ (63 - l : ℤ) := zpow_pos (by norm_num) _
  have two : (2 : ℚ) ≤ 2 ^ (63 - l : ℤ) := by
    calc (2 : ℚ) = 2 ^ (1 : ℤ) := (zpow_one _).symm
      _ ≤ 2 ^ (63 - l : ℤ) := zpow_le_zpow_right₀ (by norm_num) (by omega)
  have parts : (2 : ℚ) ^ (63 - l : ℤ) * 2 ^ ((l : ℤ) + 1) = 2 ^ 64 := by
    rw [← zpow_add₀ (by norm_num), ← zpow_natCast]
    congr 1
    push_cast
    ring
  have numeral : 2 ^ (63 - l : ℤ) ≤ t.value := by
    by_contra less
    have product : t.value * u.millis < 2 ^ (63 - l : ℤ) * u.millis :=
      mul_lt_mul_of_pos_right (not_le.mp less) (pos_millis u)
    have unit : (2 : ℚ) ^ (63 - l : ℤ) * (u.millis + 1) ≤ 2 ^ 64 :=
      (mul_le_mul_of_nonneg_left high room.le).trans_eq parts
    rw [limit_eq] at above
    linarith
  have onGrid : OnGrid (2 ^ (63 - l : ℤ)) := onGrid_two_zpow (by omega)
  have greatest : (2 : ℚ) ^ (63 - l : ℤ) ≤ bound := zpow_le_zpow_right₀ (by norm_num) (by omega)
  have double := t.rounds_double.le_value onGrid greatest numeral
  have onGrid' : OnGrid (2 ^ (63 : ℤ)) := onGrid_two_zpow (by norm_num)
  have above' : 2 ^ (63 : ℤ) ≤ value t.double * value u.scale := by
    rw [same]
    calc (2 : ℚ) ^ (63 : ℤ)
      _ = 2 ^ (63 - l : ℤ) * 2 ^ (l : ℤ) := by rw [← zpow_add₀ (by norm_num), sub_add_cancel]
      _ ≤ value t.double * u.millis :=
        mul_le_mul double low (zpow_nonneg (by norm_num) _) t.value_double_nonneg
  exact le_value_mul t.rounds_double.1 finite (one_le_scale u) onGrid' half_le_bound above'

/-- The milliseconds leave 64 bits at the upper end, but not the doubles. -/
def Saturates (t : Numeral) (u : TimeUnit) : Prop :=
  isFinite (product t u) = true ∧ 2 ^ 63 ≤ value (product t u)

theorem read?_unsigned (t : Numeral) (u : TimeUnit) :
    read? (literal false t u) = ofFloatMillis? (product t u) := by
  rw [read?_literal, if_neg Bool.false_ne_true, product]

theorem read?_negative (t : Numeral) (u : TimeUnit) :
    read? (literal true t u) = ofFloatMillis? (-t.double * u.scale) := by
  rw [read?_literal, if_pos rfl]

theorem read?_of_infinite (infinite : isFinite (product t u) = false) (negative : Bool) :
    read? (literal negative t u) = none := by
  cases negative
  · rw [read?_unsigned, ofFloatMillis?, infinite, if_neg Bool.false_ne_true]
  · rw [read?_negative, ofFloatMillis?, (product_neg t u).1, infinite, if_neg Bool.false_ne_true]

theorem read?_of_within (finite : isFinite (product t u) = true)
    (within : value (product t u) < 2 ^ 63) :
    ∃ d, read? (literal false t u) = some d ∧ read? (literal true t u) = some d.neg := by
  obtain ⟨finite', opposite⟩ := product_neg t u
  have size : |value (product t u)| < 2 ^ 63 := by rwa [abs_of_nonneg (value_product_nonneg t u)]
  obtain ⟨inRange, read⟩ := ofMillis?_of_abs_lt finite size
  obtain ⟨inRange', read'⟩ :=
    ofMillis?_of_abs_lt (finite'.trans finite) (by rwa [opposite, abs_neg])
  refine ⟨⟨away (value (product t u)), inRange⟩, ?_, ?_⟩
  · rw [read?_unsigned, ofFloatMillis?, if_pos finite, read]
  · rw [read?_negative, ofFloatMillis?, if_pos (finite'.trans finite), read']
    simp only [opposite, away_neg, neg]

theorem read?_of_saturates (h : Saturates t u) :
    read? (literal false t u) = some greatest ∧ read? (literal true t u) = none := by
  obtain ⟨finite, beyond⟩ := h
  obtain ⟨finite', opposite⟩ := product_neg t u
  rw [read?_unsigned, read?_negative, ofFloatMillis?, ofFloatMillis?, if_pos finite,
    if_pos (finite'.trans finite)]
  exact ⟨ofMillis?_of_ge finite beyond,
    ofMillis?_of_le (finite'.trans finite) (opposite.trans_le (neg_le_neg beyond))⟩

theorem not_saturates (within : t.value * u.millis ≤ 2 ^ 62) : ¬ Saturates t u := by
  intro h
  have below : t.value * u.millis ≤ 2 ^ (62 : ℤ) := by exact_mod_cast within
  have small := value_product_lt (by norm_num) (by norm_num) below
  have large := h.2
  norm_num at small
  linarith

theorem saturates (above : 2 * limit ≤ t.value * u.millis)
    (below : t.value * u.millis ≤ 2 ^ (1023 : ℤ)) : Saturates t u := by
  refine ⟨(isFinite_iff_abs_lt (isNaN_product t u)).mpr ?_, le_value_product above⟩
  rw [abs_of_nonneg (value_product_nonneg t u)]
  exact value_product_lt (by norm_num) (by norm_num) below

/-- Texts with and without a minus sign give opposite durations, or both give none. -/
def Symmetric (t : Numeral) (u : TimeUnit) : Prop :=
  read? (literal true t u) = (read? (literal false t u)).map neg

def RangeChecked (t : Numeral) (u : TimeUnit) : Prop :=
  2 * limit ≤ t.value * u.millis →
    ∀ negative, Run.rtimeLiteral (literal negative t u) =
      .error (.invalidRTime (literal negative t u))

theorem refused_iff {text : String} :
    Run.rtimeLiteral text = .error (.invalidRTime text) ↔ read? text = none := by
  unfold Run.rtimeLiteral
  cases read? text
  · exact iff_of_true rfl rfl
  · exact iff_of_false nofun nofun

theorem symmetric_iff (t : Numeral) (u : TimeUnit) : Symmetric t u ↔ ¬ Saturates t u := by
  constructor
  · intro same saturated
    obtain ⟨read, read'⟩ := read?_of_saturates saturated
    rw [Symmetric, read, read'] at same
    cases same
  · intro kept
    cases finite : isFinite (product t u)
    · rw [Symmetric, read?_of_infinite finite, read?_of_infinite finite]
      rfl
    · obtain ⟨d, read, read'⟩ :=
        read?_of_within finite (not_le.mp fun beyond => kept ⟨finite, beyond⟩)
      rw [Symmetric, read, read']
      rfl

/-- Durations are read alike with both signs, and refused far from the range, unless the
milliseconds leave 64 bits as a finite double: then the positive text gives the greatest duration,
whatever it says, and the negative one none. Up to half of the range they do not leave them; from
twice the range on they do until the doubles end. -/
theorem literal_signs_iff (t : Numeral) (u : TimeUnit) :
    (Symmetric t u ∧ RangeChecked t u ↔ ¬ Saturates t u) ∧
      (Saturates t u → read? (literal false t u) = some greatest ∧
        Run.rtimeLiteral (literal true t u) = .error (.invalidRTime (literal true t u))) ∧
      (t.value * u.millis ≤ 2 ^ 62 → ¬ Saturates t u) ∧
      (2 * limit ≤ t.value * u.millis → t.value * u.millis ≤ 2 ^ (1023 : ℤ) → Saturates t u) := by
  refine ⟨⟨fun h => (symmetric_iff t u).mp h.1, fun kept => ⟨(symmetric_iff t u).mpr kept, ?_⟩⟩, ?_,
    not_saturates, saturates⟩
  · intro above negative
    cases finite : isFinite (product t u)
    · exact refused_iff.mpr (read?_of_infinite finite negative)
    · exact absurd ⟨finite, le_value_product above⟩ kept
  · intro saturated
    obtain ⟨read, read'⟩ := read?_of_saturates saturated
    exact ⟨read, refused_iff.mpr read'⟩

/-- One millisecond above the range, and twice as far. -/
theorem positive_literal_saturates :
    read? "9223372036854775808ms" = some greatest ∧ read? "-9223372036854775808ms" = none ∧
      read? "18446744073709551616ms" = some greatest ∧ read? "-18446744073709551616ms" = none := by
  decide +kernel

end Duration

end EdgeCache
