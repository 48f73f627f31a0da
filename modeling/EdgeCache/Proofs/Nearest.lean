import EdgeCache.Proofs.Doubles

/-! Products of doubles. What two finite doubles give is a nearest double to the product of their
numbers, and nearest numbers come in the order of what they are near to. -/

namespace EdgeCache

open Float.Model

namespace Binary64

variable {g r r' v v' : ℚ} {m : ℕ} {e : ℤ}

/-- A number of at most 53 bits above the least exponent, which may be beyond all finite doubles. -/
def OnGrid (g : ℚ) : Prop := ∃ k q : ℤ, |k| ≤ 2 ^ 53 ∧ -1074 ≤ q ∧ g = k * 2 ^ q

/-- A number of the grid that none of them is closer than. -/
structure IsNearest (r v : ℚ) : Prop where
  onGrid : OnGrid v
  closest : ∀ g, OnGrid g → |r - v| ≤ |r - g|

theorem OnGrid.neg (h : OnGrid g) : OnGrid (-g) := by
  obtain ⟨k, q, few, least, rfl⟩ := h
  exact ⟨-k, q, by rwa [abs_neg], least, by push_cast; ring⟩

theorem IsNearest.self (h : OnGrid g) : IsNearest g g :=
  ⟨h, fun _ _ => by rw [sub_self, abs_zero]; exact abs_nonneg _⟩

theorem IsNearest.neg (h : IsNearest r v) : IsNearest (-r) (-v) := by
  refine ⟨h.onGrid.neg, fun g onGrid => ?_⟩
  calc |-r - -v| = |r - v| := by rw [← abs_neg]; ring_nf
    _ ≤ |r - -g| := h.closest (-g) onGrid.neg
    _ = |-r - g| := by rw [← abs_neg]; ring_nf

theorem IsNearest.le_of_lt (h : IsNearest r v) (h' : IsNearest r' v') (less : r < r') : v ≤ v' := by
  by_contra more
  have first := sq_le_sq.mpr (h.closest v' h'.onGrid)
  have second := sq_le_sq.mpr (h'.closest v h.onGrid)
  have apart : 0 < (v - v') * (r' - r) := mul_pos (by linarith) (by linarith)
  linarith

theorem IsNearest.eq_of_onGrid (h : IsNearest g v) (onGrid : OnGrid g) : v = g := by
  have closest := h.closest g onGrid
  rw [sub_self, abs_zero, abs_nonpos_iff, sub_eq_zero] at closest
  exact closest.symm

theorem IsNearest.le_grid (h : IsNearest r v) (onGrid : OnGrid g) (below : r ≤ g) : v ≤ g := by
  rcases below.lt_or_eq with less | rfl
  · exact h.le_of_lt (.self onGrid) less
  · exact (h.eq_of_onGrid onGrid).le

theorem IsNearest.grid_le (h : IsNearest r v) (onGrid : OnGrid g) (above : g ≤ r) : g ≤ v := by
  have := h.neg.le_grid onGrid.neg (neg_le_neg above)
  linarith

theorem abs_sub_intCast_le {n : ℤ} (half : |r - n| ≤ 1 / 2) (k : ℤ) : |r - n| ≤ |r - k| := by
  rcases eq_or_ne k n with rfl | other
  · exact le_rfl
  · have apart : (1 : ℚ) ≤ |(k : ℚ) - n| := by exact_mod_cast Int.one_le_abs (sub_ne_zero.mpr other)
    have between : |(k : ℚ) - n| ≤ |r - n| + |r - k| := by
      calc |(k : ℚ) - n| = |(r - n) - (r - k)| := by ring_nf
        _ ≤ |r - n| + |r - k| := abs_sub _ _
    linarith

theorem isNearest_of_half {n : ℕ} {t : ℤ} (few : n ≤ 2 ^ 53) (least : -1074 ≤ t)
    (half : |r - n| ≤ 1 / 2) (full : -1074 < t → 2 ^ 52 ≤ r) :
    IsNearest (r * 2 ^ t) (dyadic n t) := by
  have scale : (0 : ℚ) < 2 ^ t := zpow_pos (by norm_num) t
  have near (k : ℤ) : |r * 2 ^ t - dyadic n t| ≤ |r * 2 ^ t - k * 2 ^ t| := by
    rw [dyadic, ← sub_mul, ← sub_mul, abs_mul, abs_mul]
    exact mul_le_mul_of_nonneg_right (abs_sub_intCast_le (n := n) (by exact_mod_cast half) k)
      (abs_nonneg _)
  refine ⟨⟨n, t, by rw [Nat.abs_cast]; exact_mod_cast few, least, rfl⟩, ?_⟩
  rintro _ ⟨k, q, small, lowest, rfl⟩
  rcases le_or_gt t q with coarse | fine
  · have whole : (k : ℚ) * 2 ^ q = ((k * 2 ^ (q - t).toNat : ℤ) : ℚ) * 2 ^ t := by
      push_cast
      rw [mul_assoc, ← zpow_natCast, ← zpow_add₀ (by norm_num)]
      congr 2
      omega
    rw [whole]
    exact near _
  · have first := near (2 ^ 52)
    have reach : (k : ℚ) * 2 ^ q ≤ ((2 ^ 52 : ℤ) : ℚ) * 2 ^ t := by
      calc (k : ℚ) * 2 ^ q ≤ 2 ^ (53 : ℤ) * 2 ^ q :=
            mul_le_mul_of_nonneg_right (by exact_mod_cast (abs_le.mp small).2)
              (zpow_nonneg (by norm_num) _)
        _ = 2 ^ (53 + q) := (zpow_add₀ (by norm_num) _ _).symm
        _ ≤ 2 ^ (52 + t) := zpow_le_zpow_right₀ (by norm_num) (by omega)
        _ = 2 ^ (52 : ℤ) * 2 ^ t := zpow_add₀ (by norm_num) _ _
    have beyond : ((2 ^ 52 : ℤ) : ℚ) * 2 ^ t ≤ r * 2 ^ t :=
      mul_le_mul_of_nonneg_right (by exact_mod_cast full (by omega)) scale.le
    rw [abs_of_nonneg (sub_nonneg.mpr beyond)] at first
    rw [abs_of_nonneg (sub_nonneg.mpr (reach.trans beyond))]
    linarith

/-! The bits that a shift drops, kept as a round bit and a sticky bit. -/

open UnpackedFloat (ExtendedMantissa)

def Extends (r : ℚ) : ExtendedMantissa → Prop
  | ⟨m, false, false⟩ => r = m
  | ⟨m, false, true⟩ => m < r ∧ r < m + 1 / 2
  | ⟨m, true, false⟩ => r = m + 1 / 2
  | ⟨m, true, true⟩ => m + 1 / 2 < r ∧ r < m + 1

theorem Extends.eq {half rest : Bool} (h : Extends r ⟨m, half, rest⟩)
    (kept : (half || rest) = false) : r = m := by
  rw [Bool.or_eq_false_iff] at kept
  rw [kept.1, kept.2] at h
  exact h

theorem Extends.between {half rest : Bool} (h : Extends r ⟨m, half, rest⟩)
    (lost : (half || rest) = true) :
    m < r ∧ r < m + 1 := by
  match half, rest, h with
  | false, true, h => exact ⟨h.1, h.2.trans (by linarith)⟩
  | true, false, h => exact ⟨by rw [h]; linarith, by rw [h]; linarith⟩
  | true, true, h => exact ⟨lt_trans (by linarith) h.1, h.2⟩

theorem Extends.bounds {a : UnpackedFloat.Accuracy} (h : Extends r (.ofMantissaAndAccuracy m a)) :
    m ≤ r ∧ r < m + 1 := by
  match a, h with
  | .exact, h =>
    have : r = m := h
    constructor <;> linarith
  | .inexact .lt, h | .inexact .eq, h | .inexact .gt, h =>
    have := Extends.between h rfl
    exact ⟨this.1.le, this.2⟩

theorem Extends.shiftRightOne {em : ExtendedMantissa} (h : Extends r em) :
    Extends (r / 2) em.shiftRightOne := by
  obtain ⟨m, half, rest⟩ := em
  have parts : (m : ℚ) = 2 * (m / 2 : ℕ) + (m % 2 : ℕ) := by
    exact_mod_cast (Nat.div_add_mod m 2).symm
  have shifted :
      ExtendedMantissa.shiftRightOne ⟨m, half, rest⟩ = ⟨m / 2, m % 2 != 0, half || rest⟩ := rfl
  rw [shifted]
  rcases Nat.mod_two_eq_zero_or_one m with last | last <;> rw [last] at parts ⊢ <;>
    push_cast at parts <;> cases dropped : half || rest
  · have := h.eq dropped
    show r / 2 = _
    linarith
  · have := h.between dropped
    constructor <;> linarith
  · have := h.eq dropped
    show r / 2 = _
    linarith
  · have := h.between dropped
    constructor <;> linarith

theorem Extends.shiftRight {em : ExtendedMantissa} (h : Extends r em) (n : ℕ) :
    Extends (r / 2 ^ n) (em >>> n) := by
  induction n with
  | zero => rwa [pow_zero, div_one]
  | succ n ih =>
    rw [pow_succ, ← div_div]
    exact ih.shiftRightOne

theorem Extends.half {em : ExtendedMantissa} (h : Extends r em) :
    |r - em.roundedMantissa| ≤ 1 / 2 := by
  obtain ⟨m, half, rest⟩ := em
  rw [abs_le]
  match half, rest, h with
  | false, false, h =>
    show _ ≤ r - m ∧ r - m ≤ _
    have : r = m := h
    constructor <;> linarith
  | false, true, h =>
    show _ ≤ r - m ∧ r - m ≤ _
    have := h.1
    have := h.2
    constructor <;> linarith
  | true, false, h =>
    show _ ≤ r - (m + m % 2 : ℕ) ∧ r - (m + m % 2 : ℕ) ≤ _
    have : r = m + 1 / 2 := h
    rcases Nat.mod_two_eq_zero_or_one m with last | last <;> rw [last] <;> push_cast <;> constructor
      <;> linarith
  | true, true, h =>
    show _ ≤ r - (m + 1 : ℕ) ∧ r - (m + 1 : ℕ) ≤ _
    have := h.1
    have := h.2
    push_cast
    constructor <;> linarith

/-! Rounding to 53 bits, and the product. -/

/-- What a rounded magnitude is kept as. -/
inductive Keeps (s : UnpackedFloat.Sign) : ℚ → UnpackedFloat → Prop
  | zero : Keeps s 0 (.zero s)
  | finite {m : ℕ} {e : ℤ} (canonical : Canonical m e) (pos : 0 < m) : Keeps s (dyadic m e)
    (.finite s m e pos)

def target (m : ℕ) (e : ℤ) : ℤ := max (m.log2 + 1 + e - 53) (-1074)

theorem shiftToTargetExponent_eq (m : ℕ) (e : ℤ) (a : UnpackedFloat.Accuracy) :
    UnpackedFloat.shiftToTargetExponent Format.binary64 m e a =
      (ExtendedMantissa.ofMantissaAndAccuracy m a >>> (target m e - e).toNat,
        e + (target m e - e).toNat) := rfl

theorem dyadic_zero (e : ℤ) : dyadic 0 e = 0 := by rw [dyadic, Nat.cast_zero, zero_mul]

theorem dyadic_carry (e : ℤ) : dyadic (2 ^ 53) e = dyadic (2 ^ 52) (e + 1) := by
  rw [dyadic, dyadic, zpow_add_one₀ (by norm_num)]
  push_cast
  ring

theorem shiftToTargetExponent_carry {n : ℕ} {t : ℤ} (few : n ≤ 2 ^ 53) (least : -1074 ≤ t) :
    (n < 2 ^ 53 ∧ UnpackedFloat.shiftToTargetExponent Format.binary64 n t .exact =
      (⟨n, false, false⟩, t)) ∨
    (n = 2 ^ 53 ∧ UnpackedFloat.shiftToTargetExponent Format.binary64 n t .exact =
      (⟨2 ^ 52, false, false⟩, t + 1)) := by
  rw [shiftToTargetExponent_eq]
  rcases few.lt_or_eq with less | rfl
  · have width : n.log2 + 1 ≤ 53 := by
      rcases Nat.eq_zero_or_pos n with rfl | pos
      · decide
      · exact (Nat.log2_lt pos.ne').mpr less
    have none : (target n t - t).toNat = 0 := by rw [target]; omega
    rw [none]
    exact .inl ⟨less, by rw [Nat.cast_zero, add_zero]; rfl⟩
  · have width : (2 ^ 53 : ℕ).log2 = 53 := Nat.log2_two_pow
    have one : (target (2 ^ 53) t - t).toNat = 1 := by rw [target, width]; omega
    rw [one]
    exact .inr ⟨rfl, rfl⟩

theorem shifted_bounds (low : m ≤ r) (high : r < m + 1) (wide : 2 ^ 52 ≤ m ∨ e ≤ -1074) {k : ℕ}
    (shift : (target m e - e).toNat = k) :
    e + k = target m e ∧ r / 2 ^ k < 2 ^ 53 ∧ (-1074 < target m e → (2 : ℚ) ^ 52 ≤ r / 2 ^ k) := by
  have least : 2 ^ 52 ≤ m → 52 ≤ m.log2 := fun full => (Nat.le_log2 (by omega)).mpr full
  have reached : e ≤ target m e := by rw [target]; omega
  have together : e + k = target m e := by omega
  have scale : (0 : ℚ) < 2 ^ k := pow_pos two_pos k
  refine ⟨together, ?_, fun above => ?_⟩
  · have width : m.log2 + 1 ≤ 53 + k := by rw [target] at together; omega
    have full : (m : ℚ) + 1 ≤ 2 ^ (53 + k) := by
      exact_mod_cast Nat.succ_le_of_lt
        (Nat.lt_log2_self.trans_le (Nat.pow_le_pow_right two_pos width))
    rw [div_lt_iff₀ scale, ← pow_add]
    exact high.trans_le full
  · have width : 52 + k = m.log2 := by rw [target] at together above; omega
    have nonzero : m ≠ 0 := by
      rintro rfl
      simp at width
    rw [le_div_iff₀ scale, ← pow_add, width]
    exact le_trans (by exact_mod_cast Nat.log2_self_le nonzero) low

theorem rounded_bounds {n : ℕ} (half : |r - n| ≤ 1 / 2) (upper : r < 2 ^ 53) :
    n ≤ 2 ^ 53 ∧ (2 ^ 52 ≤ r → 2 ^ 52 ≤ n) := by
  have close := abs_le.mp half
  constructor
  · have : (n : ℚ) < 2 ^ 53 + 1 := by linarith
    exact Nat.le_of_lt_succ (by exact_mod_cast this)
  · intro full
    have : (2 : ℚ) ^ 52 < n + 1 := by linarith
    exact Nat.le_of_lt_succ (by exact_mod_cast this)

/-- What rounding keeps of a magnitude is a nearest number of the grid. The shift to the target
rounds, and a second one brings a carry back to 53 bits. -/
theorem keeps_roundWithAccuracy {a : UnpackedFloat.Accuracy}
    (start : Extends r (.ofMantissaAndAccuracy m a)) (wide : 2 ^ 52 ≤ m ∨ e ≤ -1074) :
    ∃ v, IsNearest (r * 2 ^ e) v ∧ ∀ s,
    Keeps s v (UnpackedFloat.roundWithAccuracy Format.binary64 s m e a) := by
  obtain ⟨k, shift⟩ : ∃ k : ℕ, (target m e - e).toNat = k := ⟨_, rfl⟩
  obtain ⟨low, high⟩ := start.bounds
  obtain ⟨together, upper, lower⟩ := shifted_bounds low high wide shift
  have least : -1074 ≤ target m e := le_max_right _ _
  obtain ⟨n, rounded⟩ :
    ∃ n : ℕ, (ExtendedMantissa.ofMantissaAndAccuracy m a >>> k).roundedMantissa = n := ⟨_, rfl⟩
  have half := (start.shiftRight k).half
  rw [rounded] at half
  obtain ⟨few, full⟩ := rounded_bounds half upper
  have same : r * 2 ^ e = r / 2 ^ k * 2 ^ target m e := by
    rw [← together, zpow_add₀ (by norm_num), zpow_natCast]
    field_simp
  refine ⟨dyadic n (target m e), same ▸ isNearest_of_half few least half lower, fun s => ?_⟩
  unfold UnpackedFloat.roundWithAccuracy
  rw [shiftToTargetExponent_eq, shift, together]
  dsimp only
  rw [rounded]
  rcases shiftToTargetExponent_carry few least with ⟨less, settled⟩ | ⟨rfl, settled⟩
    <;> rw [settled] <;> dsimp only
  · by_cases zero : n = 0
    · rw [dif_pos zero, zero, dyadic_zero]
      exact .zero
    · rw [dif_neg zero]
      exact .finite ⟨less, least, fun above => full (lower above)⟩ (Nat.pos_of_ne_zero zero)
  · rw [dif_neg (by norm_num), dyadic_carry]
    exact .finite ⟨by norm_num, by omega, fun _ => le_rfl⟩ (by norm_num)

def cut (r : ℚ) : ℚ := max (-bound) (min bound r)

theorem cut_neg (r : ℚ) : cut (-r) = -cut r := by
  have := bound_pos
  unfold cut
  rcases le_total bound r with above | below
  · rw [min_eq_left above, min_eq_right (by linarith), max_eq_left (by linarith),
      max_eq_right (by linarith)]
  · rw [min_eq_right below]
    rcases le_total r (-bound) with under | within
    · rw [max_eq_left under, min_eq_left (by linarith), max_eq_right (by linarith), neg_neg]
    · rw [max_eq_right within, min_eq_right (by linarith), max_eq_right (by linarith)]

theorem cut_mono (below : r ≤ r') : cut r ≤ cut r' := max_le_max le_rfl (min_le_min le_rfl below)

theorem cut_of_lt_bound (pos : 0 ≤ r) (below : r < bound) : cut r = r := by
  rw [cut, min_eq_right below.le, max_eq_right (by linarith)]

theorem cut_of_bound_le (beyond : bound ≤ r) : cut r = bound := by
  rw [cut, min_eq_left beyond, max_eq_right (by linarith [bound_pos])]

def signed : UnpackedFloat.Sign → ℚ → ℚ
  | .negative, r => -r
  | .positive, r => r

variable {s s' : UnpackedFloat.Sign} {u w : UnpackedFloat}

theorem signed_zero (s : UnpackedFloat.Sign) : signed s 0 = 0 := by cases s <;> simp [signed]

theorem signed_mul (s s' : UnpackedFloat.Sign) (r r' : ℚ) :
    signed (s * s') (r * r') = signed s r * signed s' r' := by
  cases s <;> cases s'
  · exact (neg_mul_neg r r').symm
  · exact (neg_mul r r').symm
  · exact (mul_neg r r').symm
  · rfl

theorem cut_signed (s : UnpackedFloat.Sign) (r : ℚ) : cut (signed s r) = signed s (cut r) := by
  cases s
  · exact cut_neg r
  · rfl

theorem IsNearest.signed (h : IsNearest r v) (s : UnpackedFloat.Sign) :
    IsNearest (signed s r) (signed s v) := by
  cases s
  · exact h.neg
  · exact h

theorem number_finite (pos : 0 < m) : number (.finite s m e pos) = signed s (dyadic m e) := by
  cases s <;> rfl

theorem number_infinity : number (.infinity s) = signed s bound := by cases s <;> rfl

def packed (u : UnpackedFloat) : Shape := ofBits (UnpackedFloat.pack Format.binary64 u).toNat

theorem Keeps.packed (h : Keeps s v u) : packed u ≠ .nan ∧ (packed u).value = cut (signed s v) := by
  rw [cut_signed]
  cases h with
  | zero =>
    rw [cut_of_lt_bound le_rfl bound_pos, signed_zero, Binary64.packed, ofBits_pack_zero]
    exact ⟨nofun, number_zero s⟩
  | finite canonical pos =>
    rw [Binary64.packed, ofBits_pack_finite canonical pos]
    split
    · rename_i room
      rw [cut_of_lt_bound (dyadic_nonneg _ _) (canonical.dyadic_lt_bound room)]
      exact ⟨nofun, number_finite pos⟩
    · rename_i large
      rw [cut_of_bound_le (canonical.bound_le_dyadic (lt_of_not_ge large))]
      exact ⟨nofun, number_infinity⟩

theorem Canonical.wide_mul {m' : ℕ} {e' : ℤ} (h : Canonical m e) (h' : Canonical m' e')
    (pos : 0 < m) (pos' : 0 < m') :
    2 ^ 52 ≤ m * m' ∨ e + e' ≤ -1074 := by
  have := h.least
  have := h'.least
  rcases lt_or_ge (-1074) e with above | low
  · exact .inl ((h.full above).trans (Nat.le_mul_of_pos_right m pos'))
  · rcases lt_or_ge (-1074) e' with above' | low'
    · exact .inl ((h'.full above').trans (Nat.le_mul_of_pos_left m' pos))
    · exact .inr (by omega)

theorem packed_mul (hu : Fits u) (hw : Fits w) (finite₁ : u.isFinite = true)
    (finite₂ : w.isFinite = true) :
    packed (UnpackedFloat.mul Format.binary64 u w) ≠ .nan ∧
      ∃ v, IsNearest (number u * number w) v ∧
      (packed (UnpackedFloat.mul Format.binary64 u w)).value = cut v := by
  have nothing (s : UnpackedFloat.Sign) :
      packed (.zero s) ≠ .nan ∧ ∃ v, IsNearest 0 v ∧ (packed (.zero s)).value = cut v := by
    have kept := (Keeps.zero (s := s)).packed
    rw [signed_zero] at kept
    exact ⟨kept.1, 0, .self ⟨0, 0, by norm_num, by norm_num, by norm_num⟩, kept.2⟩
  match u, w, hu, hw, finite₁, finite₂ with
  | .zero s, .zero s', _, _, _, _ =>
    rw [number_zero, zero_mul]
    exact nothing _
  | .zero s, .finite s' m e pos, _, _, _, _ =>
    rw [number_zero, zero_mul]
    exact nothing _
  | .finite s m e pos, .zero s', _, _, _, _ =>
    rw [number_zero, mul_zero]
    exact nothing _
  | .finite s m e pos, .finite s' m' e' pos', h, h', _, _ =>
    have wide := h.canonical.wide_mul h'.canonical pos pos'
    have start : Extends ((m * m' : ℕ) : ℚ) (.ofMantissaAndAccuracy (m * m') .exact) := rfl
    obtain ⟨v, nearest, keeps⟩ := keeps_roundWithAccuracy start wide
    have product : number (.finite s m e pos) * number (.finite s' m' e' pos') =
        signed (s * s') (dyadic (m * m') (e + e')) := by
      rw [number_finite, number_finite, ← signed_mul, dyadic, dyadic, dyadic,
        zpow_add₀ (by norm_num)]
      push_cast
      ring_nf
    rw [product]
    exact ⟨(keeps _).packed.1, _, nearest.signed _, (keeps _).packed.2⟩

theorem shape_mul (x y : Float) :
    shape (x * y) = packed (UnpackedFloat.mul Format.binary64 x.toModel.unpack y.toModel.unpack) :=
      rfl

theorem isFinite_iff {x : Float} : isFinite x = true ↔ x.toModel.unpack.isFinite = true := by
  rw [isFinite, shape_eq]
  cases x.toModel.unpack <;> exact Iff.rfl

theorem value_mul {x y : Float} (finite₁ : isFinite x = true) (finite₂ : isFinite y = true) :
    isNaN (x * y) = false ∧ ∃ v, IsNearest (value x * value y) v ∧ value (x * y) = cut v := by
  rw [isFinite_iff] at finite₁ finite₂
  obtain ⟨number, v, nearest, kept⟩ := packed_mul (fits_unpack x) (fits_unpack y) finite₁ finite₂
  rw [value_eq x, value_eq y]
  exact ⟨beq_eq_false_iff_ne.mpr number, v, nearest, kept⟩

variable {x x' y : Float}

theorem value_packed_zero (s : UnpackedFloat.Sign) : (packed (.zero s)).value = 0 := by
  rw [packed, ofBits_pack_zero]
  exact number_zero s

theorem number_mul_zero (s : UnpackedFloat.Sign) (w : UnpackedFloat) :
    (packed (UnpackedFloat.mul Format.binary64 (.zero s) w)).value = 0 := by
  cases w with
  | notANumber | infinity s' => exact congrArg Shape.value ofBits_pack_notANumber
  | zero s' | finite s' m e pos => exact value_packed_zero _

theorem value_mul_congr (number₁ : isNaN x = false) (number₂ : isNaN x' = false)
    (same : value x = value x') (y : Float) :
    value (x * y) = value (x' * y) := by
  have compared := compare_value number₁ number₂
  rw [compare_eq_iff_eq.mpr same] at compared
  rw [value, value, shape_mul, shape_mul]
  rcases eq_or_zero_of_compare compared with eq | ⟨s, s', zero₁, zero₂⟩
  · rw [eq]
  · rw [zero₁, zero₂, number_mul_zero, number_mul_zero]

theorem unpack_infinite (number : isNaN x = false) (infinite : isFinite x = false) :
    ∃ s, x.toModel.unpack = .infinity s := by
  rw [isNaN_eq_false_iff] at number
  rw [← Bool.not_eq_true, isFinite_iff] at infinite
  match unpacked : x.toModel.unpack with
  | .notANumber => exact absurd unpacked number
  | .infinity s => exact ⟨s, rfl⟩
  | .zero s | .finite s m e _ => exact absurd (unpacked ▸ rfl) infinite

theorem value_infinite (number : isNaN x = false) (infinite : isFinite x = false) :
    value x = bound ∨ value x = -bound := by
  obtain ⟨s, unpacked⟩ := unpack_infinite number infinite
  rw [value_eq, unpacked]
  cases s
  · exact .inr rfl
  · exact .inl rfl

theorem unpack_positive (finite : isFinite y = true) (pos : 0 < value y) :
    ∃ m e pos', y.toModel.unpack = .finite .positive m e pos' := by
  rw [isFinite_iff] at finite
  rw [value_eq] at pos
  match unpacked : y.toModel.unpack with
  | .notANumber | .infinity s => cases unpacked ▸ finite
  | .zero s =>
    rw [unpacked, number_zero] at pos
    exact absurd pos (lt_irrefl _)
  | .finite .negative m e pos' =>
    rw [unpacked] at pos
    exact absurd pos (neg_nonpos.mpr (dyadic_nonneg m e)).not_gt
  | .finite .positive m e pos' => exact ⟨m, e, pos', rfl⟩

theorem value_mul_infinite (number : isNaN x = false) (infinite : isFinite x = false)
    (finite : isFinite y = true) (pos : 0 < value y) :
    isNaN (x * y) = false ∧ value (x * y) = value x := by
  obtain ⟨s, unpacked₁⟩ := unpack_infinite number infinite
  obtain ⟨m, e, pos', unpacked₂⟩ := unpack_positive finite pos
  have same : shape (x * y) = .infinite (s == .negative) := by
    rw [shape_mul, unpacked₁, unpacked₂]
    cases s <;> exact ofBits_pack_infinity
  rw [isNaN, value_eq x, value, same, unpacked₁]
  exact ⟨rfl, rfl⟩

theorem value_mul_mono (below : x ≤ x') (finite : isFinite y = true) (pos : 0 < value y) :
    value (x * y) ≤ value (x' * y) := by
  obtain ⟨number, number', order⟩ := le_iff.mp below
  rcases order.lt_or_eq with less | same
  · cases finite₁ : isFinite x
    · have lowest : value x = -bound := (value_infinite number finite₁).resolve_left fun top => by
        linarith [value_le_bound x']
      rw [(value_mul_infinite number finite₁ finite pos).2, lowest]
      exact neg_bound_le_value _
    · cases finite₂ : isFinite x'
      · have top : value x' = bound :=
          (value_infinite number' finite₂).resolve_right fun lowest => by
            linarith [neg_bound_le_value x]
        rw [(value_mul_infinite number' finite₂ finite pos).2, top]
        exact value_le_bound _
      · obtain ⟨-, v, nearest, product⟩ := value_mul finite₁ finite
        obtain ⟨-, v', nearest', product'⟩ := value_mul finite₂ finite
        rw [product, product']
        exact cut_mono (nearest.le_of_lt nearest' (mul_lt_mul_of_pos_right less pos))
  · exact (value_mul_congr number number' same y).le

theorem value_mul_le (number : isNaN x = false) (finite : isFinite y = true) (one : 1 ≤ value y)
    (onGrid : OnGrid g) (least : -bound ≤ g) (below : value x * value y ≤ g) :
    value (x * y) ≤ g := by
  cases finite₁ : isFinite x
  · rw [(value_mul_infinite number finite₁ finite (by linarith)).2]
    rcases value_infinite number finite₁ with top | lowest
    · rw [top] at below ⊢
      exact (le_mul_of_one_le_right bound_pos.le one).trans below
    · exact lowest.trans_le least
  · obtain ⟨-, v, nearest, product⟩ := value_mul finite₁ finite
    rw [product, cut]
    exact max_le least ((min_le_right _ _).trans (nearest.le_grid onGrid below))

theorem le_value_mul (number : isNaN x = false) (finite : isFinite y = true) (one : 1 ≤ value y)
    (onGrid : OnGrid g) (greatest : g ≤ bound) (above : g ≤ value x * value y) :
    g ≤ value (x * y) := by
  cases finite₁ : isFinite x
  · rw [(value_mul_infinite number finite₁ finite (by linarith)).2]
    rcases value_infinite number finite₁ with top | lowest
    · exact greatest.trans_eq top.symm
    · rw [lowest] at above ⊢
      linarith [le_mul_of_one_le_right bound_pos.le one]
  · obtain ⟨-, v, nearest, product⟩ := value_mul finite₁ finite
    rw [product, cut]
    exact le_max_of_le_right (le_min greatest (nearest.grid_le onGrid above))

end Binary64

end EdgeCache
