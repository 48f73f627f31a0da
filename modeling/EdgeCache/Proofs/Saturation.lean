import EdgeCache.Proofs.Rounded
import EdgeCache.Value.Assign

/-! Durations of a number of seconds. They keep the order of what they are made from, but for
doubles below the range, which become the greatest duration as those above it do. -/

namespace EdgeCache

namespace Binary64

variable {x : Float}

theorem isFinite_thousand : isFinite 1000.0 = true := by rfl

theorem value_thousand : value 1000.0 = 1000 := by
  have parts : shape 1000.0 = .finite ⟨false, 1000 * 2 ^ 43, -43⟩ := by decide
  rw [value, parts, Shape.value, Parts.value, dyadic]
  norm_num

theorem one_le_thousand : 1 ≤ value 1000.0 := by
  rw [value_thousand]
  norm_num

/-- Doubles are even where a thousandfold comes near the ends of the range, so that it keeps a
distance from them. -/
theorem thousandfold_gap (number : isNaN x = false) :
    1000 * value x ≤ -2 ^ 63 ∨ |1000 * value x| ≤ 2 ^ 63 - 1024 ∨ 2 ^ 63 ≤ 1000 * value x := by
  cases finite : isFinite x
  · have room := half_le_bound
    rcases value_infinite number finite with top | bottom
    · exact .inr (.inr (by rw [top]; linarith))
    · exact .inl (by rw [bottom]; linarith)
  · obtain ⟨p, same, canonical⟩ := exists_parts finite
    have size : |1000 * value x| = 1000 * dyadic p.mantissa p.exponent := by
      rw [same, abs_mul, abs_value]
      norm_num
    rcases lt_or_ge (dyadic p.mantissa p.exponent) (2 ^ 53) with small | large
    · exact .inr (.inl (by rw [size]; linarith))
    · obtain ⟨k, even⟩ := canonical.even_of_large large
      rw [even] at size
      rcases Nat.lt_or_ge k 4611686018427388 with within | beyond
      · have : (k : ℚ) ≤ 4611686018427387 := by exact_mod_cast Nat.le_of_lt_succ within
        exact .inr (.inl (by rw [size]; linarith))
      · have : (4611686018427388 : ℚ) ≤ k := by exact_mod_cast beyond
        rcases abs_cases (1000 * value x) with ⟨eq, -⟩ | ⟨eq, -⟩
        · exact .inr (.inr (by linarith))
        · exact .inl (by linarith)

end Binary64

namespace Duration

open Binary64

variable {x y : Float}

def Below (x : Float) : Prop := 1000 * value x < -limit

def Above (x : Float) : Prop := limit < 1000 * value x

theorem limit_eq : (limit : ℚ) = 2 ^ 63 - 1 := by
  norm_num [limit, Word.half, twoTo]

theorem Below.low (h : Below x) (number : isNaN x = false) : 1000 * value x ≤ -2 ^ 63 := by
  rw [Below, limit_eq] at h
  rcases thousandfold_gap number with low | within | high
  · exact low
  · linarith [(abs_le.mp within).1]
  · linarith

theorem Above.high (h : Above x) (number : isNaN x = false) : 2 ^ 63 ≤ 1000 * value x := by
  rw [Above, limit_eq] at h
  rcases thousandfold_gap number with low | within | high
  · linarith
  · linarith [(abs_le.mp within).2]
  · exact high

theorem abs_le_of_within (number : isNaN x = false) (reached : ¬ Below x) (kept : ¬ Above x) :
    |1000 * value x| ≤ 2 ^ 63 - 1024 := by
  rw [Below, limit_eq] at reached
  rw [Above, limit_eq] at kept
  rcases thousandfold_gap number with low | within | high
  · linarith
  · exact within
  · linarith

/-! A double as a number of milliseconds. The range of durations lacks the least number of 64 bits,
to which doubles below the range are brought. -/

theorem roundMillis_eq (finite : isFinite x = true) : roundMillis x = within64 (value x) :=
  roundToInt64_eq (isNaN_of_finite finite)

theorem ofMillis?_of_abs_lt (finite : isFinite x = true) (within : |value x| < 2 ^ 63) :
    ∃ inRange, ofMillis? (roundMillis x) = some ⟨away (value x), inRange⟩ := by
  have onGrid := onGrid_value finite
  obtain ⟨low, high⟩ := abs_lt.mp within
  have size : |value x| ≤ ((2 ^ 63 - 1024 : ℤ) : ℚ) := by
    have upper := onGrid.gap.resolve_right high.not_ge
    have lower := onGrid.neg.gap.resolve_right (not_le.mpr (by linarith))
    push_cast
    exact abs_le.mpr ⟨by linarith, by linarith⟩
  obtain ⟨low, high⟩ := abs_le.mp (abs_away_le size)
  have least : Word.least = -2 ^ 63 := by decide
  have most : Word.greatest = 2 ^ 63 - 1 := by decide
  have top : limit = 2 ^ 63 - 1 := by decide
  have kept : roundMillis x = away (value x) := by
    rw [roundMillis_eq finite, within64, clamp]
    omega
  have inRange : (away (value x)).natAbs ≤ limit := by omega
  exact ⟨inRange, by rw [kept, ofMillis?, dif_pos inRange]⟩

theorem ofMillis?_of_ge (finite : isFinite x = true) (beyond : 2 ^ 63 ≤ value x) :
    ofMillis? (roundMillis x) = some greatest := by
  have high : ((2 ^ 63 : ℤ) : ℚ) ≤ value x := by exact_mod_cast beyond
  have raised := within64_mono high
  have most : within64 (value x) ≤ Word.greatest := max_le (by decide) (min_le_left _ _)
  have cast : roundMillis x = Word.greatest := by
    rw [within64_intCast] at raised
    rw [roundMillis_eq finite]
    exact le_antisymm most
      ((by decide : Word.greatest ≤ clamp Word.least Word.greatest (2 ^ 63)).trans raised)
  rw [cast]
  rfl

theorem ofMillis?_of_le (finite : isFinite x = true) (below : value x ≤ -2 ^ 63) :
    ofMillis? (roundMillis x) = none := by
  have low : value x ≤ ((-2 ^ 63 : ℤ) : ℚ) := by exact_mod_cast below
  have lowered := within64_mono low
  have least : Word.least ≤ within64 (value x) := le_max_left _ _
  have cast : roundMillis x = Word.least := by
    rw [within64_intCast] at lowered
    rw [roundMillis_eq finite]
    exact le_antisymm (lowered.trans (by decide)) least
  rw [cast]
  rfl

def millisOf (x : Float) : ℤ := roundMillis (x * 1000.0)

theorem ofFloatSeconds_eq (x : Float) : ofFloatSeconds x = (ofMillis? (millisOf x)).getD greatest :=
  rfl

theorem millisOf_eq (number : isNaN x = false) : millisOf x = within64 (value (x * 1000.0)) := by
  have positive : 0 < value 1000.0 := zero_lt_one.trans_le one_le_thousand
  exact roundToInt64_eq (isNaN_mul number isFinite_thousand positive)

theorem millisOf_mono (ordered : x ≤ y) : millisOf x ≤ millisOf y := by
  obtain ⟨number, number', -⟩ := le_iff.mp ordered
  have positive : 0 < value 1000.0 := zero_lt_one.trans_le one_le_thousand
  rw [millisOf_eq number, millisOf_eq number']
  exact within64_mono (value_mul_mono ordered isFinite_thousand positive)

variable {n : ℤ}

theorem millisOf_le (number : isNaN x = false) (onGrid : OnGrid n) (least : -bound ≤ n)
    (below : 1000 * value x ≤ n) :
    millisOf x ≤ clamp Word.least Word.greatest n := by
  rw [millisOf_eq number, ← within64_intCast]
  refine within64_mono (value_mul_le number isFinite_thousand one_le_thousand onGrid least ?_)
  rwa [value_thousand, mul_comm]

theorem le_millisOf (number : isNaN x = false) (onGrid : OnGrid n) (greatest : n ≤ bound)
    (above : n ≤ 1000 * value x) :
    clamp Word.least Word.greatest n ≤ millisOf x := by
  rw [millisOf_eq number, ← within64_intCast]
  refine within64_mono (le_value_mul number isFinite_thousand one_le_thousand onGrid greatest ?_)
  rwa [value_thousand, mul_comm]

theorem millisOf_of_below (number : isNaN x = false) (below : Below x) :
    millisOf x = Word.least := by
  refine le_antisymm ?_ ((millisOf_eq number).symm ▸ le_max_left _ _)
  have onGrid : OnGrid ((-2 ^ 63 : ℤ) : ℚ) := ⟨-1, 63, by norm_num, by norm_num, by norm_num⟩
  refine (millisOf_le number onGrid ?_ ?_).trans_eq rfl
  · push_cast
    linarith [half_le_bound]
  · push_cast
    exact below.low number

theorem millisOf_of_above (number : isNaN x = false) (above : Above x) :
    millisOf x = Word.greatest := by
  have order : Word.least ≤ Word.greatest := by decide
  refine le_antisymm ((millisOf_eq number).symm ▸ max_le order (min_le_left _ _)) ?_
  have onGrid : OnGrid ((2 ^ 63 : ℤ) : ℚ) := ⟨1, 63, by norm_num, by norm_num, by norm_num⟩
  refine le_trans (by decide) (le_millisOf number onGrid ?_ ?_)
  · push_cast
    exact half_le_bound
  · push_cast
    exact above.high number

theorem abs_millisOf_le (number : isNaN x = false) (reached : ¬ Below x) (kept : ¬ Above x) :
    |millisOf x| ≤ 2 ^ 63 - 1024 := by
  obtain ⟨low, high⟩ := abs_le.mp (abs_le_of_within number reached kept)
  have onGrid : OnGrid ((2 ^ 63 - 1024 : ℤ) : ℚ) :=
    ⟨2 ^ 53 - 1, 10, by norm_num, by norm_num, by norm_num⟩
  have room := half_le_bound
  have onGrid' : OnGrid ((-(2 ^ 63 - 1024) : ℤ) : ℚ) := by
    rw [Int.cast_neg]
    exact onGrid.neg
  refine abs_le.mpr ⟨?_, ?_⟩
  · refine le_trans (by decide) (le_millisOf number onGrid' ?_ ?_) <;> push_cast <;> linarith
  · refine (millisOf_le number onGrid ?_ ?_).trans (by decide) <;> push_cast <;> linarith

theorem ofFloatSeconds_of_below (number : isNaN x = false) (below : Below x) :
    ofFloatSeconds x = greatest := by
  rw [ofFloatSeconds_eq, millisOf_of_below number below]
  rfl

theorem ofFloatSeconds_of_above (number : isNaN x = false) (above : Above x) :
    ofFloatSeconds x = greatest := by
  rw [ofFloatSeconds_eq, millisOf_of_above number above]
  rfl

theorem millis_ofFloatSeconds (number : isNaN x = false) (reached : ¬ Below x) (kept : ¬ Above x) :
    (ofFloatSeconds x).millis = millisOf x := by
  obtain ⟨low, high⟩ := abs_le.mp (abs_millisOf_le number reached kept)
  have top : limit = 2 ^ 63 - 1 := by decide
  have inRange : (millisOf x).natAbs ≤ limit := by omega
  rw [ofFloatSeconds_eq, ofMillis?, dif_pos inRange]
  rfl

theorem millis_lt_greatest (number : isNaN x = false) (reached : ¬ Below x) (kept : ¬ Above x) :
    (ofFloatSeconds x).millis < greatest.millis := by
  have size := abs_le.mp (abs_millisOf_le number reached kept)
  have top : greatest.millis = 2 ^ 63 - 1 := by decide
  rw [millis_ofFloatSeconds number reached kept, top]
  omega

theorem millis_le_greatest (d : Duration) : d.millis ≤ greatest.millis := by
  have := d.inRange
  show d.millis ≤ limit
  omega

theorem ofFloatSeconds_le_iff (ordered : x ≤ y) :
    (ofFloatSeconds x).millis ≤ (ofFloatSeconds y).millis ↔ (Below x → Below y ∨ Above y) := by
  obtain ⟨number, number', order⟩ := le_iff.mp ordered
  by_cases out : Below y ∨ Above y
  · have last : ofFloatSeconds y = greatest :=
      out.elim (ofFloatSeconds_of_below number') (ofFloatSeconds_of_above number')
    rw [last]
    exact iff_of_true (millis_le_greatest _) fun _ => out
  · obtain ⟨reached, kept⟩ := not_or.mp out
    have less := millis_lt_greatest number' reached kept
    by_cases below : Below x
    · rw [ofFloatSeconds_of_below number below]
      exact iff_of_false (not_le.mpr less) fun all => out (all below)
    · have small : ¬ Above x := fun above => kept (above.trans_le (by linarith))
      rw [millis_ofFloatSeconds number below small, millis_ofFloatSeconds number' reached kept]
      exact iff_of_true (millisOf_mono ordered) fun h => absurd h below

theorem onGrid_zero : OnGrid ((0 : ℤ) : ℚ) := ⟨0, 0, by norm_num, by norm_num, by norm_num⟩

theorem millis_pos_iff (number : isNaN x = false) (negative : value x < 0) :
    0 < (ofFloatSeconds x).millis ↔ Below x := by
  by_cases below : Below x
  · rw [ofFloatSeconds_of_below number below]
    exact iff_of_true (by decide) below
  · have kept : ¬ Above x := by
      rw [Above, limit_eq]
      linarith
    have room := bound_pos
    have least : millisOf x ≤ 0 :=
      millisOf_le number onGrid_zero (by push_cast; linarith) (by push_cast; linarith)
    rw [millis_ofFloatSeconds number below kept]
    exact iff_of_false least.not_gt below

theorem millis_nonneg (number : isNaN x = false) (positive : 0 ≤ value x) :
    0 ≤ (ofFloatSeconds x).millis := by
  have reached : ¬ Below x := by
    rw [Below, limit_eq]
    linarith
  by_cases above : Above x
  · rw [ofFloatSeconds_of_above number above]
    decide
  · have room := bound_pos
    rw [millis_ofFloatSeconds number reached above]
    exact le_millisOf number onGrid_zero (by push_cast; linarith) (by push_cast; linarith)

/-- Durations come in the order of the numbers of seconds that they are made of, if the lower one is
not below the range. Below the range the duration is the greatest one, as it is above, and only
there does a negative number give a positive duration. A slot for durations takes what the number
gives. -/
theorem seconds_order_iff (ordered : x ≤ y) :
    ((ofFloatSeconds x).millis ≤ (ofFloatSeconds y).millis ↔ (Below x → Below y ∨ Above y)) ∧
      (Below x ∨ Above x → ofFloatSeconds x = greatest) ∧
      (value x < 0 → (0 < (ofFloatSeconds x).millis ↔ Below x)) ∧
      (0 ≤ value x → 0 ≤ (ofFloatSeconds x).millis) ∧
      ∀ d marks marks', Value.assign (.rtime d marks) .assign (.float x marks') =
        .ok (.rtime (ofFloatSeconds x) { marks with notSet := false }) := by
  obtain ⟨number, -, -⟩ := le_iff.mp ordered
  have out (h : Below x ∨ Above x) : ofFloatSeconds x = greatest :=
    h.elim (ofFloatSeconds_of_below number) (ofFloatSeconds_of_above number)
  exact ⟨ofFloatSeconds_le_iff ordered, out, millis_pos_iff number, millis_nonneg number,
    fun _ _ _ => rfl⟩

theorem seconds_order_iff_infinity :
    (-1.0 : Float) ≤ Binary64.infinity ∧
      (ofFloatSeconds (-1.0)).millis ≤ (ofFloatSeconds Binary64.infinity).millis ∧
      ¬ 0 < (ofFloatSeconds (-1.0)).millis := by
  have ordered : (-1.0 : Float) ≤ Binary64.infinity := by decide
  have parts : shape (-1.0) = .finite ⟨true, 2 ^ 52, -52⟩ := by decide
  have second : value (-1.0) = -1 := by
    rw [value, parts, Shape.value, Parts.value, dyadic]
    norm_num
  have reached : ¬ Below (-1.0) := by
    rw [Below, second, limit_eq]
    norm_num
  have negative : value (-1.0) < 0 := by
    rw [second]
    norm_num
  obtain ⟨order, -, sign, -⟩ := seconds_order_iff ordered
  exact ⟨ordered, order.mpr fun below => absurd below reached,
    fun pos => reached ((sign negative).mp pos)⟩

/-- Ten thousand million million seconds back are below the range. -/
theorem long_ago_becomes_greatest :
    (-1e16 : Float) ≤ -1.0 ∧ ¬ (ofFloatSeconds (-1e16)).millis ≤ (ofFloatSeconds (-1.0)).millis ∧
      Value.assign (.rtime .zero .plain) .assign (.float (-1e16) .plain) =
        .ok (.rtime greatest .plain) :=
  ⟨by decide, by decide, rfl⟩

end Duration

end EdgeCache
