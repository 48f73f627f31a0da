import EdgeCache.Proofs.Numerals

/-! Doubles brought to whole doubles. Whole parts of at most 53 bits are exact, and so is what
remains of a double without its whole part. -/

namespace EdgeCache

namespace Binary64

variable {g r : ℚ} {x : Float} {p : Parts} {n : ℕ} {f : Parts → ℤ} {lo hi : ℤ}

def toward (r : ℚ) : ℤ := if r < 0 then -⌊-r⌋ else ⌊r⌋

theorem toward_of_nonneg (nonneg : 0 ≤ r) : toward r = ⌊r⌋ := if_neg nonneg.not_gt

theorem toward_neg (r : ℚ) : toward (-r) = -toward r := by
  unfold toward
  rcases lt_trichotomy r 0 with less | rfl | more
  · rw [if_neg (by linarith), if_pos less, neg_neg]
  · norm_num
  · rw [if_pos (by linarith), if_neg (by linarith), neg_neg]

theorem toward_intCast (n : ℤ) : toward n = n := by
  rw [toward]
  split
  · rw [← Int.cast_neg, Int.floor_intCast, neg_neg]
  · exact Int.floor_intCast n

theorem abs_away_sub_le (r : ℚ) : |away r - r| ≤ 1 / 2 := by
  have half (r : ℚ) : |(⌊r + 1 / 2⌋ : ℚ) - r| ≤ 1 / 2 := by
    have low := Int.floor_le (r + 1 / 2)
    have high := Int.lt_floor_add_one (r + 1 / 2)
    exact abs_le.mpr ⟨by linarith, by linarith⟩
  rw [away]
  split
  · have := half (-r)
    rw [← abs_neg] at this
    push_cast
    convert this using 2
    ring
  · exact half r

theorem scaled_down (p : Parts) : (p.scaled 1 .down : ℤ) = ⌊dyadic p.mantissa p.exponent⌋ := by
  rw [Parts.scaled, dyadic]
  cases p.exponent with
  | ofNat e =>
    have whole : (p.mantissa : ℚ) * 2 ^ (Int.ofNat e) = ((p.mantissa * twoTo e * 1 : ℕ) : ℚ) := by
      simp [twoTo]
    rw [whole, Int.floor_natCast]
  | negSucc e =>
    have part : (p.mantissa : ℚ) * 2 ^ (Int.negSucc e) =
        (p.mantissa * 1 : ℕ) / (twoTo (e + 1) : ℕ) := by
      simp [twoTo, zpow_negSucc, div_eq_mul_inv]
    rw [part, Rat.floor_natCast_div_natCast]
    rfl

theorem Parts.truncate_eq (p : Parts) : p.truncate = toward p.value := by
  have := dyadic_nonneg p.mantissa p.exponent
  rw [Parts.truncate, Parts.signed, scaled_down, Parts.value]
  split
  · rw [toward_neg, toward_of_nonneg this]
  · rw [toward_of_nonneg this]

theorem rounds_roundedBy (read : shape x = .finite p) (f : Parts → ℤ) (whole : f p = p.signed n) :
    Rounds (roundedBy f x) (f p) := by
  unfold roundedBy
  rw [read]
  dsimp only
  rw [whole, Parts.signed]
  split
  · rw [Int.natAbs_neg, Int.natAbs_natCast, Int.cast_neg, Int.cast_natCast]
    exact (rounds_ofNat n).neg
  · rw [Int.natAbs_natCast, Int.cast_natCast]
    exact rounds_ofNat n

theorem exists_shape (finite : isFinite x = true) :
    ∃ p, shape x = .finite p ∧ value x = p.value := by
  unfold isFinite at finite
  match read : shape x with
  | .nan | .infinite s => cases read ▸ finite
  | .finite p => exact ⟨p, rfl, by rw [value, read]; rfl⟩

theorem rounds_truncate (finite : isFinite x = true) : Rounds (truncate x) (toward (value x)) := by
  obtain ⟨p, read, same⟩ := exists_shape finite
  rw [same, ← p.truncate_eq]
  exact rounds_roundedBy read Parts.truncate rfl

theorem rounds_round (finite : isFinite x = true) : Rounds (round x) (away (value x)) := by
  obtain ⟨p, read, same⟩ := exists_shape finite
  rw [same, ← p.round_eq]
  exact rounds_roundedBy read Parts.round rfl

theorem toIntBy_truncate (finite : isFinite x = true) :
    toIntBy Parts.truncate lo hi x = clamp lo hi (toward (value x)) := by
  obtain ⟨p, read, same⟩ := exists_shape finite
  rw [toIntBy, read, same, ← p.truncate_eq]

theorem toward_bounds (r : ℚ) :
    |(toward r : ℚ)| ≤ |r| ∧ |r - toward r| ≤ |r| ∧ |r - toward r| < 1 := by
  have nonneg {r : ℚ} (h : 0 ≤ r) : |(⌊r⌋ : ℚ)| ≤ |r| ∧ |r - ⌊r⌋| ≤ |r| ∧ |r - ⌊r⌋| < 1 := by
    have low := Int.floor_le r
    have high := Int.lt_floor_add_one r
    have whole : (0 : ℚ) ≤ ⌊r⌋ := by exact_mod_cast Int.floor_nonneg.mpr h
    rw [abs_of_nonneg (by linarith : (0 : ℚ) ≤ r - ⌊r⌋), abs_of_nonneg h, abs_of_nonneg whole]
    exact ⟨low, by linarith, by linarith⟩
  rcases le_or_gt 0 r with up | down
  · rw [toward_of_nonneg up]
    exact nonneg up
  · have opposite : r - toward r = -(-r - ⌊-r⌋) := by
      rw [toward, if_pos down]
      push_cast
      ring
    have whole : (toward r : ℚ) = -⌊-r⌋ := by
      rw [toward, if_pos down, Int.cast_neg]
    rw [opposite, whole, abs_neg, abs_neg, ← abs_neg r]
    exact nonneg (by linarith)

theorem OnGrid.sub_toward (h : OnGrid g) : OnGrid (g - toward g) := by
  have smaller := (toward_bounds g).2.1
  obtain ⟨k, q, few, least, same⟩ := h
  rcases lt_or_ge q 0 with low | high
  · obtain ⟨n, rfl⟩ : ∃ n : ℕ, q = -n := ⟨(-q).toNat, by omega⟩
    have scale : (0 : ℚ) < 2 ^ (-(n : ℤ)) := zpow_pos (by norm_num) _
    have unit : (2 : ℚ) ^ n * 2 ^ (-(n : ℤ)) = 1 := by
      rw [zpow_neg, zpow_natCast]
      exact mul_inv_cancel₀ (pow_ne_zero _ (by norm_num))
    generalize toward g = w at *
    have parts : g - w = ((k - w * 2 ^ n : ℤ) : ℚ) * 2 ^ (-(n : ℤ)) := by
      push_cast
      rw [sub_mul, ← same, mul_assoc, unit, mul_one]
    rw [parts, same, abs_mul, abs_mul, abs_of_pos scale, mul_le_mul_iff_left₀ scale] at smaller
    have smaller : |k - w * 2 ^ n| ≤ |k| := by exact_mod_cast smaller
    exact ⟨k - w * 2 ^ n, -n, smaller.trans few, least, parts⟩
  · obtain ⟨n, rfl⟩ : ∃ n : ℕ, q = n := ⟨q.toNat, by omega⟩
    have whole : g = ((k * 2 ^ n : ℤ) : ℚ) := by
      rw [same, zpow_natCast]
      push_cast
      rfl
    rw [whole, toward_intCast, sub_self]
    exact ⟨0, 0, by norm_num, by norm_num, by norm_num⟩

theorem sub_truncate (finite : isFinite x = true) (small : |value x| ≤ 2 ^ 53) :
    isFinite (x - truncate x) = true ∧ value (x - truncate x) = value x - toward (value x) := by
  obtain ⟨whole, -, part⟩ := toward_bounds (value x)
  have few : |toward (value x)| ≤ 2 ^ 53 := by exact_mod_cast whole.trans small
  obtain ⟨finite', same⟩ := (rounds_truncate finite).value_intCast few
  have difference := rounds_sub finite finite'
  rw [same] at difference
  have one (n : ℤ) (h : 0 ≤ n) : |value x - toward (value x)| ≤ 2 ^ n :=
    part.le.trans (one_le_zpow₀ (by norm_num) h)
  exact ⟨difference.isFinite (one 1023 (by norm_num)),
    difference.value_eq (onGrid_value finite).sub_toward (one 1024 (by norm_num))⟩

end Binary64

end EdgeCache
