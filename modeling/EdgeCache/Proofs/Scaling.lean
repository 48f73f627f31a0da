import EdgeCache.Proofs.InPlace
import EdgeCache.Proofs.Numerals
import EdgeCache.Proofs.Saturation

/-! Durations multiplied by whole numbers. Both factors are taken as doubles and so is their
product, which is a whole number of milliseconds again: the exact one up to 53 bits, and close to it
above. -/

namespace EdgeCache

namespace Binary64

variable {g v : ℚ} {n m k p : ℤ}

theorem OnGrid.exists_intCast (h : OnGrid g) (large : 2 ^ 53 ≤ |g|) : ∃ n : ℤ, g = n := by
  obtain ⟨k, q, few, -, rfl⟩ := h
  rcases lt_or_ge q 0 with low | high
  · have size : |(k : ℚ)| ≤ 2 ^ 53 := by exact_mod_cast few
    have scale : (2 : ℚ) ^ q < 1 := zpow_lt_one_of_neg₀ (by norm_num) low
    have positive : (0 : ℚ) < 2 ^ q := zpow_pos (by norm_num) _
    rw [abs_mul, abs_of_pos positive] at large
    have : |(k : ℚ)| * 2 ^ q < 2 ^ 53 := by
      calc |(k : ℚ)| * 2 ^ q ≤ 2 ^ 53 * 2 ^ q := mul_le_mul_of_nonneg_right size positive.le
        _ < 2 ^ 53 := mul_lt_of_lt_one_right (by norm_num) scale
    exact absurd large this.not_ge
  · obtain ⟨n, rfl⟩ : ∃ n : ℕ, q = n := ⟨q.toNat, by omega⟩
    exact ⟨k * 2 ^ n, by rw [zpow_natCast]; push_cast; rfl⟩

theorem IsNearest.exists_intCast (h : IsNearest (n : ℚ) v) : ∃ k : ℤ, v = k := by
  have onGrid := onGrid_intCast (n := 2 ^ 53) (by norm_num)
  rcases le_or_gt |n| (2 ^ 53) with few | many
  · exact ⟨n, h.eq_of_onGrid (onGrid_intCast few)⟩
  · refine h.onGrid.exists_intCast ?_
    rcases lt_abs.mp many with more | less
    · have above : ((2 ^ 53 : ℤ) : ℚ) ≤ n := by exact_mod_cast more.le
      have := h.grid_le onGrid above
      push_cast at this
      exact this.trans (le_abs_self v)
    · have below : ((2 ^ 53 : ℤ) : ℚ) ≤ -n := by exact_mod_cast less.le
      have := h.neg.grid_le onGrid below
      push_cast at this
      exact this.trans (neg_le_abs v)

theorem IsNearest.abs_sub_le_of_intCast (h : IsNearest (n : ℚ) v) :
    |v - n| ≤ |(n : ℚ)| / 2 ^ 53 := by
  rcases eq_or_ne n 0 with rfl | other
  · rw [h.eq_of_onGrid (onGrid_intCast (by norm_num)), sub_self, abs_zero]
    positivity
  · have size : (1 : ℚ) ≤ |(n : ℚ)| := by exact_mod_cast Int.one_le_abs other
    obtain ⟨t, low, high⟩ :=
      exists_mem_Ico_zpow (zero_lt_one.trans_le size) (by norm_num : (1 : ℚ) < 2)
    have normal : 0 ≤ t := by
      by_contra below
      have : (2 : ℚ) ^ (t + 1) ≤ 2 ^ (0 : ℤ) := zpow_le_zpow_right₀ (by norm_num) (by omega)
      rw [zpow_zero] at this
      linarith
    calc |v - n| = |n - v| := abs_sub_comm _ _
      _ ≤ 2 ^ (t + 1 - 54) := h.abs_sub_le high.le (by omega)
      _ = 2 ^ t / 2 ^ 53 := by
        rw [show t + 1 - 54 = t - (53 : ℕ) by push_cast; ring, zpow_sub₀ (by norm_num),
          zpow_natCast]
      _ ≤ |(n : ℚ)| / 2 ^ 53 := div_le_div_of_nonneg_right low (by norm_num)

/-- What rounding both factors and then their product makes of the product of two whole numbers. -/
def Product (m k p : ℤ) : Prop :=
  ∃ m' k' : ℤ, IsNearest m m' ∧ IsNearest k k' ∧ IsNearest (m' * k' : ℤ) p

theorem Product.eq_of_abs_le (h : Product m k p) (few : |m * k| ≤ 2 ^ 53) : p = m * k := by
  obtain ⟨m', k', nearest, nearest', product⟩ := h
  have kept {n n' : ℤ} (nearest : IsNearest n n') (small : |n| ≤ 2 ^ 53) : n' = n := by
    exact_mod_cast nearest.eq_of_onGrid (onGrid_intCast small)
  have same : m' * k' = m * k := by
    rcases eq_or_ne m 0 with rfl | first
    · rw [kept nearest (by norm_num), zero_mul, zero_mul]
    rcases eq_or_ne k 0 with rfl | second
    · rw [kept nearest' (by norm_num), mul_zero, mul_zero]
    rw [abs_mul] at few
    have left : |m| ≤ 2 ^ 53 :=
      (le_mul_of_one_le_right (abs_nonneg m) (Int.one_le_abs second)).trans few
    have right : |k| ≤ 2 ^ 53 :=
      (le_mul_of_one_le_left (abs_nonneg k) (Int.one_le_abs first)).trans few
    rw [kept nearest left, kept nearest' right]
  rw [same] at product
  exact kept product few

theorem Product.error_le (h : Product m k p) : 2 ^ 51 * |p - m * k| ≤ |m * k| := by
  obtain ⟨m', k', nearest, nearest', product⟩ := h
  have first := nearest.abs_sub_le_of_intCast
  have second := nearest'.abs_sub_le_of_intCast
  have third := product.abs_sub_le_of_intCast
  push_cast at third
  -- The errors of the factors add up, with a third term for their product that is far below the
  -- rest.
  have factors : |(m' * k' : ℚ) - m * k| ≤ |(m * k : ℚ)| / 2 ^ 52 + |(m * k : ℚ)| / 2 ^ 106 := by
    have left := mul_le_mul_of_nonneg_right first (abs_nonneg (k : ℚ))
    have right := mul_le_mul_of_nonneg_left second (abs_nonneg (m : ℚ))
    have both := mul_le_mul first second (abs_nonneg _) (by positivity)
    have parts : (m' * k' : ℚ) - m * k = (m' - m) * k + m * (k' - k) + (m' - m) * (k' - k) := by
      ring
    rw [parts, abs_mul]
    have sum := abs_add_three ((m' - m) * k : ℚ) (m * (k' - k)) ((m' - m) * (k' - k))
    rw [abs_mul, abs_mul, abs_mul] at sum
    linarith
  have larger : |(m' * k' : ℚ)| ≤ |(m * k : ℚ)| + |(m' * k' : ℚ) - m * k| := by
    have := abs_add_le (m * k : ℚ) (m' * k' - m * k)
    rwa [add_sub_cancel] at this
  have whole : |(p : ℚ) - m * k| ≤ |(p : ℚ) - m' * k'| + |(m' * k' : ℚ) - m * k| := abs_sub_le _ _ _
  have size : 0 ≤ |(m * k : ℚ)| := abs_nonneg _
  have together : 2 ^ 51 * |(p : ℚ) - m * k| ≤ |(m * k : ℚ)| := by
    generalize |(m * k : ℚ)| = t at *
    linarith
  exact_mod_cast together

theorem exists_intCast_of_rounds {x : Float} {t : ℕ} (h : Rounds x n) (few : t ≤ 1023)
    (small : |n| ≤ 2 ^ t) :
    ∃ n' : ℤ, IsNearest n n' ∧ isFinite x = true ∧ value x = n' ∧ |n'| ≤ 2 ^ t := by
  have size : |(n : ℚ)| ≤ 2 ^ (t : ℤ) := by exact_mod_cast small
  obtain ⟨finite, nearest, within⟩ := h.isNearest size (by omega) (by omega)
  obtain ⟨n', same⟩ := nearest.exists_intCast
  rw [same] at nearest within
  exact ⟨n', nearest, finite, same, by exact_mod_cast within⟩

theorem exists_product (small : |m| ≤ 2 ^ 63) (small' : |k| ≤ 2 ^ 63) :
    ∃ p, Product m k p ∧ isFinite (Float.ofInt m * Float.ofInt k) = true ∧
    value (Float.ofInt m * Float.ofInt k) = p := by
  obtain ⟨m', nearest, finite, same, size⟩ :=
    exists_intCast_of_rounds (rounds_ofInt m) (by norm_num) small
  obtain ⟨k', nearest', finite', same', size'⟩ :=
    exists_intCast_of_rounds (rounds_ofInt k) (by norm_num) small'
  have product := rounds_mul finite finite'
  rw [same, same', ← Int.cast_mul] at product
  have within : |m' * k'| ≤ 2 ^ 126 := by
    rw [abs_mul]
    exact mul_le_mul size size' (abs_nonneg _) (by norm_num)
  obtain ⟨p, nearest'', finite'', same'', -⟩ :=
    exists_intCast_of_rounds product (by norm_num) within
  exact ⟨p, ⟨m', k', nearest, nearest', nearest''⟩, finite'', same''⟩

end Binary64

namespace Value

open Duration Binary64

variable {d : Duration} {k : Int64} {marks marks' : Marks} {p : ℤ}

theorem scale_eq (d : Duration) (k : Int64) (marks marks' : Marks) :
    assignInPlace .multiplication (.integer k marks') (.rtime d marks) =
      match ofMillis? (roundMillis (Float.ofInt d.millis * Float.ofInt k.toInt)) with
      | some e => .ok () (.rtime e { marks with notSet := false })
      | none => .error (.unsupportedOperator "*=" .rtime) (.rtime d marks) := by
  rw [assignInPlace_eq]
  have assigned : (Value.rtime d marks).assign .multiplication (.integer k marks') =
      (scaled .multiplication d (Float.ofInt k.toInt)).map fun e =>
        .rtime e { marks with notSet := false } := rfl
  rw [assigned, scaled]
  dsimp only
  cases ofMillis? (roundMillis (Float.ofInt d.millis * Float.ofInt k.toInt)) <;> rfl

/-- A duration times a whole number, as the nearest double to the product of their doubles: what is
within 64 bits is stored, and what is below the range fails and leaves the slot. Products of 53 bits
are exact, all others close, so that only those at the ends of the range are decided by their
rounding. -/
theorem whole_multiple (d : Duration) (k : Int64) (marks marks' : Marks) :
    ∃ p : ℤ, Product d.millis k.toInt p ∧ value (Float.ofInt d.millis * Float.ofInt k.toInt) = p ∧
      (|p| < 2 ^ 63 → ∃ inRange, assignInPlace .multiplication (.integer k marks')
        (.rtime d marks) = .ok () (.rtime ⟨p, inRange⟩ { marks with notSet := false })) ∧
      (p ≤ -2 ^ 63 → assignInPlace .multiplication (.integer k marks') (.rtime d marks) =
        .error (.unsupportedOperator "*=" .rtime) (.rtime d marks)) ∧
      (|d.millis * k.toInt| ≤ 2 ^ 53 → p = d.millis * k.toInt) ∧
      2 ^ 51 * |p - d.millis * k.toInt| ≤ |d.millis * k.toInt| ∧
      (|d.millis * k.toInt| ≤ 2 ^ 63 - 2 ^ 13 → |p| < 2 ^ 63) ∧
      (d.millis * k.toInt ≤ -(2 ^ 63 + 2 ^ 13) → p ≤ -2 ^ 63) := by
  have top : limit = 2 ^ 63 - 1 := by decide
  have small : |d.millis| ≤ 2 ^ 63 := by
    have := d.inRange
    rw [Int.abs_eq_natAbs]
    omega
  have small' : |k.toInt| ≤ 2 ^ 63 := by
    have low := k.le_toInt
    have high := k.toInt_lt
    exact abs_le.mpr ⟨low, high.le⟩
  obtain ⟨p, product, finite, same⟩ := exists_product small small'
  have close := product.error_le
  refine ⟨p, product, same, fun within => ?_, fun below => ?_, product.eq_of_abs_le, close,
    fun within => ?_, fun below => ?_⟩
  · -- The product is a whole number already, so that rounding it to milliseconds changes nothing.
    have size : |value (Float.ofInt d.millis * Float.ofInt k.toInt)| < 2 ^ 63 := by
      rw [same]
      exact_mod_cast within
    obtain ⟨inRange, stored⟩ := ofMillis?_of_abs_lt finite size
    rw [scale_eq, stored]
    simp only [same, away_intCast] at inRange ⊢
    exact ⟨inRange, trivial⟩
  · have low : value (Float.ofInt d.millis * Float.ofInt k.toInt) ≤ -2 ^ 63 := by
      rw [same]
      exact_mod_cast below
    rw [scale_eq, ofMillis?_of_le finite low]
  · simp only [Int.abs_eq_natAbs] at close within ⊢
    omega
  · simp only [Int.abs_eq_natAbs] at close
    omega

theorem odd_millisecond_lost :
    (9007199254740993 * 1 : ℤ) ≤ Word.greatest ∧
      assignInPlace .multiplication (.integer 1 .plain)
        (.rtime ⟨9007199254740993, by decide⟩ .plain) =
        .ok () (.rtime ⟨9007199254740992, by decide⟩ .plain) :=
  ⟨by decide, rfl⟩

end Value

end EdgeCache
