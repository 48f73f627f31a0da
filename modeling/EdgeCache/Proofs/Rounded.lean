import EdgeCache.Proofs.Nearest
import Mathlib.Algebra.Order.Archimedean.Basic

/-! What the operations on doubles make of numbers: a nearest double, or the infinity on its side.
Opposite doubles stand for opposite numbers, and so do their products; differences and whole numbers
are exact where they can be. -/

namespace EdgeCache

open Float.Model

namespace Binary64

variable {g r r' v : ℚ} {m m' : ℕ} {e e' t : ℤ} {s s' : UnpackedFloat.Sign} {u w : UnpackedFloat}
    {x y : Float}

/-- The double is what rounding may make of a number. -/
def Rounds (x : Float) (r : ℚ) : Prop := isNaN x = false ∧ ∃ v, IsNearest r v ∧ value x = cut v

theorem onGrid_two_zpow {n : ℤ} (least : -1074 ≤ n) : OnGrid (2 ^ n) :=
  ⟨1, n, by norm_num, least, by rw [Int.cast_one, one_mul]⟩

theorem onGrid_bound : OnGrid bound := onGrid_two_zpow (by norm_num)

theorem onGrid_intCast {n : ℤ} (few : |n| ≤ 2 ^ 53) : OnGrid n :=
  ⟨n, 0, few, by norm_num, by rw [zpow_zero, mul_one]⟩

theorem OnGrid.gap (h : OnGrid g) : g ≤ 2 ^ 63 - 1024 ∨ 2 ^ 63 ≤ g := by
  obtain ⟨k, q, few, -, rfl⟩ := h
  have small : (k : ℚ) ≤ 2 ^ 53 := by exact_mod_cast (le_abs_self k).trans few
  rcases lt_or_ge q 10 with low | high
  · left
    calc (k : ℚ) * 2 ^ q
      _ ≤ 2 ^ 53 * 2 ^ q := mul_le_mul_of_nonneg_right small (zpow_nonneg (by norm_num) _)
      _ ≤ 2 ^ 53 * 2 ^ (9 : ℤ) :=
        mul_le_mul_of_nonneg_left (zpow_le_zpow_right₀ (by norm_num) (by omega)) (by norm_num)
      _ ≤ 2 ^ 63 - 1024 := by norm_num
  · obtain ⟨n, rfl⟩ : ∃ n : ℕ, q = n + 10 := ⟨(q - 10).toNat, by omega⟩
    have whole : (k : ℚ) * 2 ^ ((n : ℤ) + 10) = ((k * 2 ^ n : ℤ) : ℚ) * 1024 := by
      rw [zpow_add₀ (by norm_num), zpow_natCast]
      push_cast
      ring
    rw [whole]
    rcases lt_or_ge (k * 2 ^ n) (2 ^ 53) with less | more
    · have : ((k * 2 ^ n : ℤ) : ℚ) ≤ 2 ^ 53 - 1 := by exact_mod_cast Int.le_sub_one_of_lt less
      exact .inl (by linarith)
    · have : (2 : ℚ) ^ 53 ≤ ((k * 2 ^ n : ℤ) : ℚ) := by exact_mod_cast more
      exact .inr (by linarith)

theorem cut_of_abs_le (within : |r| ≤ bound) : cut r = r := by
  obtain ⟨low, high⟩ := abs_le.mp within
  rw [cut, min_eq_right high, max_eq_right low]

theorem isNaN_of_finite (finite : isFinite x = true) : isNaN x = false := by
  rw [isFinite] at finite
  rw [isNaN]
  cases read : shape x with
  | nan => cases read ▸ finite
  | infinite _ => cases read ▸ finite
  | finite _ => rfl

theorem Rounds.value_le (h : Rounds x r) (onGrid : OnGrid g) (least : -bound ≤ g) (below : r ≤ g) :
    value x ≤ g := by
  obtain ⟨-, v, nearest, same⟩ := h
  rw [same]
  exact max_le least ((min_le_right _ _).trans (nearest.le_grid onGrid below))

theorem Rounds.le_value (h : Rounds x r) (onGrid : OnGrid g) (greatest : g ≤ bound)
    (above : g ≤ r) : g ≤ value x := by
  obtain ⟨-, v, nearest, same⟩ := h
  rw [same]
  exact le_max_of_le_right (le_min greatest (nearest.grid_le onGrid above))

theorem Rounds.value_eq (h : Rounds x g) (onGrid : OnGrid g) (within : |g| ≤ bound) :
    value x = g := by
  obtain ⟨-, v, nearest, same⟩ := h
  rw [same, nearest.eq_of_onGrid onGrid, cut_of_abs_le within]

theorem IsNearest.abs_sub_le {n : ℤ} (h : IsNearest r v) (size : |r| ≤ 2 ^ n) (normal : -1021 ≤ n) :
    |r - v| ≤ 2 ^ (n - 54) := by
  have scale : (0 : ℚ) < 2 ^ (n - 53) := zpow_pos (by norm_num) _
  have whole : (2 : ℚ) ^ n = 2 ^ 53 * 2 ^ (n - 53) := by
    rw [← zpow_natCast, ← zpow_add₀ (by norm_num)]
    congr 1
    push_cast
    ring
  obtain ⟨q, rfl⟩ : ∃ q, r = q * 2 ^ (n - 53) := ⟨_, (div_mul_cancel₀ r scale.ne').symm⟩
  rw [abs_mul, abs_of_pos scale, whole] at size
  have few : |q| ≤ 2 ^ 53 := le_of_mul_le_mul_right size scale
  obtain ⟨k, near⟩ : ∃ k : ℤ, |q - k| ≤ 1 / 2 := ⟨_, abs_sub_round q⟩
  have small : |k| ≤ 2 ^ 53 := by
    have close : |(k : ℚ)| < 2 ^ 53 + 1 := by
      calc |(k : ℚ)| = |q - (q - k)| := by ring_nf
        _ ≤ |q| + |q - k| := abs_sub _ _
        _ < 2 ^ 53 + 1 := by linarith
    exact Int.lt_add_one_iff.mp (by exact_mod_cast close)
  calc |q * 2 ^ (n - 53) - v|
      _ ≤ |q * 2 ^ (n - 53) - k * 2 ^ (n - 53)| := h.closest _ ⟨k, _, small, by omega, rfl⟩
      _ = |q - k| * 2 ^ (n - 53) := by rw [← sub_mul, abs_mul, abs_of_pos scale]
      _ ≤ 1 / 2 * 2 ^ (n - 53) := mul_le_mul_of_nonneg_right near scale.le
      _ = 2 ^ (n - 54) := by
        rw [show n - 54 = n - 53 - 1 by ring, zpow_sub_one₀ (by norm_num)]
        ring

/-! The opposite of a double. -/

def Shape.neg : Shape → Shape
  | nan => nan
  | infinite negative => infinite (!negative)
  | finite p => finite ⟨!p.negative, p.mantissa, p.exponent⟩

theorem Parts.value_neg (p : Parts) :
    Parts.value ⟨!p.negative, p.mantissa, p.exponent⟩ = -p.value := by
  unfold Parts.value
  cases p.negative
  · rfl
  · exact (neg_neg _).symm

theorem Shape.value_neg (a : Shape) : a.neg.value = -a.value := by
  match a with
  | nan => exact neg_zero.symm
  | infinite true => exact (neg_neg _).symm
  | infinite false => rfl
  | finite p => exact p.value_neg

theorem Shape.ofUnpacked_neg (u : UnpackedFloat) : ofUnpacked u.neg = (ofUnpacked u).neg := by
  match u with
  | .notANumber => rfl
  | .infinity s | .zero s | .finite s m e pos => cases s <;> rfl

theorem Shape.ofUnpacked_injective (same : ofUnpacked u = ofUnpacked w) : u = w := by
  have signs (s s' : UnpackedFloat.Sign) (same : (s == .negative) = (s' == .negative)) :
      s = s' := by
    cases s <;> cases s' <;> first | rfl | cases same
  match u, w with
  | .notANumber, .notANumber => rfl
  | .infinity s, .infinity s' => rw [signs s s' (Shape.infinite.inj same)]
  | .zero s, .zero s' => rw [signs s s' (Parts.mk.inj (Shape.finite.inj same)).1]
  | .zero s, .finite s' m e pos => exact absurd (Parts.mk.inj (Shape.finite.inj same)).2.1 pos.ne
  | .finite s m e pos, .zero s' => exact absurd (Parts.mk.inj (Shape.finite.inj same)).2.1 pos.ne'
  | .finite s m e pos, .finite s' m' e' pos' =>
    obtain ⟨sign, rfl, rfl⟩ := Parts.mk.inj (Shape.finite.inj same)
    obtain rfl := signs s s' sign
    rfl

theorem packed_of_fits (h : Fits u) : packed u = Shape.ofUnpacked u := by
  match u with
  | .notANumber => exact ofBits_pack_notANumber
  | .infinity s => exact ofBits_pack_infinity
  | .zero s => exact ofBits_pack_zero
  | .finite s m e pos => exact (ofBits_pack_finite h.canonical pos).trans (if_pos h.room)

theorem Fits.neg (h : Fits u) : Fits u.neg := by
  match u with
  | .notANumber | .infinity s' | .zero s' =>
    intro s m e pos same
    cases same
  | .finite s' m' e' pos' =>
    intro s m e pos same
    obtain ⟨-, rfl, rfl⟩ := UnpackedFloat.finite.inj same
    exact h s' m' e' pos' rfl

theorem unpack_neg (x : Float) : (-x).toModel.unpack = x.toModel.unpack.neg := by
  -- The operation packs the opposite and the bits are unpacked again, so that it is enough that
  -- packing keeps its shape.
  refine Shape.ofUnpacked_injective ((shape_eq (-x)).symm.trans ?_)
  exact packed_of_fits (fits_unpack x).neg

theorem shape_neg (x : Float) : shape (-x) = (shape x).neg := by
  rw [shape_eq, shape_eq, unpack_neg, Shape.ofUnpacked_neg]

theorem value_neg (x : Float) : value (-x) = -value x := by
  rw [value, shape_neg, Shape.value_neg, value]

theorem isNaN_neg (x : Float) : isNaN (-x) = isNaN x := by
  rw [isNaN, isNaN, shape_neg]
  cases shape x <;> rfl

theorem isFinite_neg (x : Float) : isFinite (-x) = isFinite x := by
  rw [isFinite, isFinite, shape_neg]
  cases shape x <;> rfl

theorem Rounds.neg (h : Rounds x r) : Rounds (-x) (-r) := by
  obtain ⟨number, v, nearest, same⟩ := h
  exact ⟨(isNaN_neg x).trans number, -v, nearest.neg, by rw [value_neg, same, cut_neg]⟩

theorem isFinite_iff_abs_lt (number : isNaN x = false) : isFinite x = true ↔ |value x| < bound := by
  cases finite : isFinite x
  · rcases value_infinite number finite with top | bottom
    · rw [top, abs_of_pos bound_pos]
      exact iff_of_false Bool.false_ne_true (lt_irrefl _)
    · rw [bottom, abs_neg, abs_of_pos bound_pos]
      exact iff_of_false Bool.false_ne_true (lt_irrefl _)
  · obtain ⟨p, same, canonical⟩ := exists_parts finite
    refine iff_of_true rfl (value_eq x ▸ abs_lt.mpr ⟨?_, ?_⟩)
    · exact neg_bound_lt_number (fits_unpack x) fun bottom => by
        rw [isFinite_iff, bottom] at finite
        cases finite
    · exact number_lt_bound (fits_unpack x) fun top => by
        rw [isFinite_iff, top] at finite
        cases finite

theorem Rounds.isFinite (h : Rounds x r) (small : |r| ≤ 2 ^ (1023 : ℤ)) : isFinite x = true := by
  have onGrid : OnGrid (2 ^ (1023 : ℤ)) := onGrid_two_zpow (by norm_num)
  have room : (2 : ℚ) ^ (1023 : ℤ) < bound := zpow_lt_zpow_right₀ (by norm_num) (by norm_num)
  have positive : (0 : ℚ) < 2 ^ (1023 : ℤ) := zpow_pos (by norm_num) _
  obtain ⟨low, high⟩ := abs_le.mp small
  rw [isFinite_iff_abs_lt h.1, abs_lt]
  generalize (2 : ℚ) ^ (1023 : ℤ) = top at *
  constructor
  · linarith [h.le_value onGrid.neg (by linarith) low]
  · linarith [h.value_le onGrid (by linarith) high]

theorem Rounds.isNearest {n : ℤ} (h : Rounds x r) (size : |r| ≤ 2 ^ n) (least : -1074 ≤ n)
    (room : n ≤ 1023) :
    Binary64.isFinite x = true ∧ IsNearest r (value x) ∧ |value x| ≤ 2 ^ n := by
  have onGrid : OnGrid (2 ^ n) := onGrid_two_zpow least
  have top : (2 : ℚ) ^ n ≤ bound := zpow_le_zpow_right₀ (by norm_num) (by omega)
  have finite := h.isFinite (size.trans (zpow_le_zpow_right₀ (by norm_num) room))
  obtain ⟨low, high⟩ := abs_le.mp size
  obtain ⟨-, v, nearest, same⟩ := h
  have within : |v| ≤ 2 ^ n :=
    abs_le.mpr ⟨nearest.grid_le onGrid.neg low, nearest.le_grid onGrid high⟩
  rw [same, cut_of_abs_le (within.trans top)]
  exact ⟨finite, nearest, within⟩

theorem Rounds.near {n : ℤ} (h : Rounds x r) (size : |r| ≤ 2 ^ n) (normal : -1021 ≤ n)
    (room : n ≤ 1023) :
    Binary64.isFinite x = true ∧ |value x| ≤ 2 ^ n ∧ |r - value x| ≤ 2 ^ (n - 54) := by
  obtain ⟨finite, nearest, within⟩ := h.isNearest size (by omega) room
  exact ⟨finite, within, nearest.abs_sub_le size normal⟩

theorem Rounds.value_intCast {k : ℤ} (h : Rounds x k) (few : |k| ≤ 2 ^ 53) :
    Binary64.isFinite x = true ∧ value x = k := by
  have size : |(k : ℚ)| ≤ 2 ^ (53 : ℤ) := by exact_mod_cast few
  exact ⟨h.isFinite (size.trans (zpow_le_zpow_right₀ (by norm_num) (by norm_num))),
    h.value_eq (onGrid_intCast few) (size.trans (zpow_le_zpow_right₀ (by norm_num) (by norm_num)))⟩

theorem onGrid_value (finite : isFinite x = true) : OnGrid (value x) := by
  obtain ⟨p, same, canonical⟩ := exists_parts finite
  have few : |(p.mantissa : ℤ)| ≤ 2 ^ 53 := by
    have := canonical.digits
    rw [Nat.abs_cast]
    omega
  have onGrid : OnGrid (dyadic p.mantissa p.exponent) :=
    ⟨p.mantissa, p.exponent, few, canonical.least, rfl⟩
  rw [same, Parts.value]
  split
  · exact onGrid.neg
  · exact onGrid

/-! Products, quotients and differences. -/

theorem rounds_mul (finite : isFinite x = true) (finite' : isFinite y = true) :
    Rounds (x * y) (value x * value y) :=
  value_mul finite finite'

theorem value_mul_neg_left (finite : isFinite x = true) (finite' : isFinite y = true) :
    value (-x * y) = -value (x * y) := by
  rw [isFinite_iff] at finite finite'
  rw [value, value, shape_mul, shape_mul, unpack_neg]
  have hu := fits_unpack x
  have hw := fits_unpack y
  generalize x.toModel.unpack = u at *
  generalize y.toModel.unpack = w at *
  cases u with
  | notANumber => cases finite
  | infinity s => cases finite
  | zero s =>
    rw [number_mul_zero]
    exact (number_mul_zero (-s) w).trans neg_zero.symm
  | finite s m e pos =>
    cases w with
    | notANumber => cases finite'
    | infinity s' => cases finite'
    | zero s' =>
      have zero := value_packed_zero
      exact (zero (-s * s')).trans (neg_zero.symm.trans (congrArg Neg.neg (zero (s * s')).symm))
    | finite s' m' e' pos' =>
      have start : Extends ((m * m' : ℕ) : ℚ) (.ofMantissaAndAccuracy (m * m') .exact) := rfl
      obtain ⟨v, -, keeps⟩ :=
        keeps_roundWithAccuracy start (hu.canonical.wide_mul hw.canonical pos pos')
      have opposite : signed (-s * s') v = -signed (s * s') v := by
        cases s <;> cases s'
        · rfl
        · exact (neg_neg v).symm
        · exact (neg_neg v).symm
        · rfl
      refine (keeps (-s * s')).packed.2.trans ?_
      rw [opposite, cut_neg]
      exact congrArg Neg.neg (keeps (s * s')).packed.2.symm

theorem isNaN_mul (number : isNaN x = false) (finite : isFinite y = true) (pos : 0 < value y) :
    isNaN (x * y) = false := by
  cases finite' : isFinite x
  · exact (value_mul_infinite number finite' finite pos).1
  · exact (rounds_mul finite' finite).1

theorem mul_neg_left (number : isNaN x = false) (finite : isFinite y = true) (pos : 0 < value y) :
    isFinite (-x * y) = isFinite (x * y) ∧ value (-x * y) = -value (x * y) := by
  have opposite : value (-x * y) = -value (x * y) := by
    cases finite' : isFinite x
    · have infinite : isFinite (-x) = false := (isFinite_neg x).trans finite'
      have same := (value_mul_infinite number finite' finite pos).2
      have same' := (value_mul_infinite ((isNaN_neg x).trans number) infinite finite pos).2
      rw [same', same, value_neg]
    · exact value_mul_neg_left finite' finite
  refine ⟨?_, opposite⟩
  rw [Bool.eq_iff_iff, isFinite_iff_abs_lt (isNaN_mul ((isNaN_neg x).trans number) finite pos),
    isFinite_iff_abs_lt (isNaN_mul number finite pos), opposite, abs_neg]

theorem keeps_round (pos : 0 < m) (e : ℤ) :
    ∃ v, IsNearest (dyadic m e) v ∧ ∀ s, Keeps s v (UnpackedFloat.round Format.binary64 s m e) := by
  obtain ⟨k, shift⟩ : ∃ k : ℕ, (e - target m e).toNat = k := ⟨_, rfl⟩
  have lengthened : m <<< k = m * 2 ^ k := Nat.shiftLeft_eq m k
  have start : Extends ((m <<< k : ℕ) : ℚ) (.ofMantissaAndAccuracy (m <<< k) .exact) := rfl
  have wide : 2 ^ 52 ≤ m <<< k ∨ e - k ≤ -1074 := by
    rcases lt_or_ge (-1074) (e - k) with above | low
    · have width : 52 ≤ m.log2 + k := by rw [target] at shift; omega
      left
      calc 2 ^ 52
        _ ≤ 2 ^ m.log2 * 2 ^ k := by
          rw [← pow_add]
          exact Nat.pow_le_pow_right two_pos width
        _ ≤ m <<< k := by rw [lengthened]; exact Nat.mul_le_mul_right _ (Nat.log2_self_le pos.ne')
    · exact .inr low
  have same : ((m <<< k : ℕ) : ℚ) * 2 ^ (e - k) = dyadic m e := by
    rw [lengthened, dyadic, zpow_sub₀ (by norm_num), zpow_natCast]
    push_cast
    field_simp
  obtain ⟨v, nearest, keeps⟩ := keeps_roundWithAccuracy start wide
  refine ⟨v, same ▸ nearest, fun s => ?_⟩
  have rounded :
      UnpackedFloat.round Format.binary64 s m e = UnpackedFloat.roundWithAccuracy Format.binary64 s
      (m <<< (e - target m e).toNat) (e - (e - target m e).toNat) .exact := rfl
  rw [rounded, shift]
  exact keeps s

def PacksNearest (u : UnpackedFloat) (r : ℚ) : Prop :=
  packed u ≠ .nan ∧ ∃ v, IsNearest r v ∧ (packed u).value = cut v

theorem PacksNearest.of_keeps (keeps : Keeps s v u) (nearest : IsNearest r v) :
    PacksNearest u (signed s r) :=
  ⟨keeps.packed.1, _, nearest.signed s, keeps.packed.2⟩

theorem packsNearest_zero (s : UnpackedFloat.Sign) : PacksNearest (.zero s) 0 := by
  have onGrid : OnGrid 0 := ⟨0, 0, by norm_num, by norm_num, by norm_num⟩
  have kept := PacksNearest.of_keeps (Keeps.zero (s := s)) (.self onGrid)
  rwa [signed_zero] at kept

theorem packsNearest_normalize (z : ℤ) (e : ℤ) (s : UnpackedFloat.Sign) :
    PacksNearest (UnpackedFloat.normalize Format.binary64 z e s) (z * 2 ^ e) := by
  unfold UnpackedFloat.normalize
  rcases lt_trichotomy z 0 with less | rfl | more
  · obtain ⟨v, nearest, keeps⟩ := keeps_round (m := (-z).toNat) (by omega) e
    have same : (z : ℚ) * 2 ^ e = signed .negative (dyadic (-z).toNat e) := by
      have whole : (((-z).toNat : ℤ) : ℚ) = -z := by exact_mod_cast Int.toNat_of_nonneg (by omega)
      rw [signed, dyadic, ← Int.cast_natCast (R := ℚ), whole]
      ring
    rw [Int.compare_eq_lt.mpr less, same]
    exact .of_keeps (keeps _) nearest
  · rw [Int.cast_zero, zero_mul]
    exact packsNearest_zero s
  · obtain ⟨v, nearest, keeps⟩ := keeps_round (m := z.toNat) (by omega) e
    have same : (z : ℚ) * 2 ^ e = signed .positive (dyadic z.toNat e) := by
      have whole : ((z.toNat : ℤ) : ℚ) = z := by exact_mod_cast Int.toNat_of_nonneg more.le
      rw [signed, dyadic, ← Int.cast_natCast (R := ℚ), whole]
    rw [Int.compare_eq_gt.mpr more, same]
    exact .of_keeps (keeps _) nearest

theorem PacksNearest.rounds (h : PacksNearest u r) (same : shape x = packed u) : Rounds x r := by
  rw [Rounds, isNaN, value, same]
  exact ⟨beq_eq_false_iff_ne.mpr h.1, h.2⟩

theorem Canonical.onGrid (h : Canonical m e) : OnGrid (dyadic m e) := by
  refine ⟨m, e, ?_, h.least, rfl⟩
  have := h.digits
  rw [Nat.abs_cast]
  omega

theorem signed_neg (s : UnpackedFloat.Sign) (r : ℚ) : signed (-s) r = -signed s r := by
  cases s
  · exact (neg_neg r).symm
  · rfl

theorem packsNearest_finite (h : Canonical m e) (pos : 0 < m) (s : UnpackedFloat.Sign) :
    PacksNearest (.finite s m e pos) (signed s (dyadic m e)) :=
  .of_keeps (.finite h pos) (.self h.onGrid)

theorem cast_apply (s : UnpackedFloat.Sign) (n : ℕ) : ((s.apply n : ℤ) : ℚ) = signed s n := by
  cases s
  · exact Int.cast_neg _
  · rfl

theorem signed_smul (s : UnpackedFloat.Sign) (r c : ℚ) : signed s r * c = signed s (r * c) := by
  cases s
  · exact neg_mul r c
  · rfl

theorem cast_lengthened {t : ℤ} (lower : t ≤ e) (s : UnpackedFloat.Sign) :
    ((s.apply (UnpackedFloat.decreaseExponent m e t).1 : ℤ) : ℚ) * 2 ^ t =
      signed s (dyadic m e) := by
  have lengthened : (UnpackedFloat.decreaseExponent m e t).1 = m * 2 ^ (e - t).toNat :=
    Nat.shiftLeft_eq _ _
  have together : e = (e - t).toNat + t := by omega
  rw [cast_apply, signed_smul, lengthened, dyadic]
  nth_rewrite 2 [together]
  rw [zpow_add₀ (by norm_num), zpow_natCast]
  push_cast
  rw [mul_assoc]

theorem packsNearest_sub (hu : Fits u) (hw : Fits w) (finite : u.isFinite = true)
    (finite' : w.isFinite = true) :
    PacksNearest (UnpackedFloat.sub Format.binary64 u w) (number u - number w) := by
  match u, w, hu, hw, finite, finite' with
  | .zero s, .zero s', _, _, _, _ =>
    rw [number_zero, number_zero, sub_zero]
    cases s <;> cases s' <;> exact packsNearest_zero _
  | .zero s, .finite s' m e pos, _, h, _, _ =>
    rw [number_zero, number_finite, zero_sub, ← signed_neg]
    exact packsNearest_finite h.canonical pos (-s')
  | .finite s m e pos, .zero s', h, _, _, _ =>
    rw [number_zero, number_finite, sub_zero]
    exact packsNearest_finite h.canonical pos s
  | .finite s m e pos, .finite s' m' e' pos', _, _, _, _ =>
    -- Brought to the lower exponent, the mantissas subtract as integers: the only rounding is that
    -- of the result.
    have difference : number (.finite s m e pos) - number (.finite s' m' e' pos') =
        ((s.apply (UnpackedFloat.decreaseExponent m e (min e e')).1 -
          s'.apply (UnpackedFloat.decreaseExponent m' e' (min e e')).1 : ℤ) : ℚ) * 2 ^
            min e e' := by
      rw [Int.cast_sub, sub_mul, cast_lengthened (min_le_left _ _),
        cast_lengthened (min_le_right _ _), number_finite, number_finite]
    rw [difference]
    exact packsNearest_normalize _ _ _

theorem rounds_sub (finite : isFinite x = true) (finite' : isFinite y = true) :
    Rounds (x - y) (value x - value y) := by
  rw [isFinite_iff] at finite finite'
  rw [value_eq x, value_eq y]
  exact (packsNearest_sub (fits_unpack x) (fits_unpack y) finite finite').rounds rfl

theorem extends_quotient (m : ℕ) (pos : 0 < m') :
    Extends ((m : ℚ) / m')
      (.ofMantissaAndAccuracy (m / m') (UnpackedFloat.accuracyOfFraction (m % m') m')) := by
  have scale : (0 : ℚ) < m' := by exact_mod_cast pos
  have rest : m % m' < m' := Nat.mod_lt _ pos
  have below : ((m % m' : ℕ) : ℚ) / m' < 1 := by
    rw [div_lt_one scale]
    exact_mod_cast rest
  have half : 2 * (((m % m' : ℕ) : ℚ) / m') = (2 * (m % m') : ℕ) / (m' : ℚ) := by
    push_cast
    ring
  rw [natCast_div_eq_add m pos]
  unfold UnpackedFloat.accuracyOfFraction
  by_cases exact : m % m' = 0
  · rw [if_pos exact, exact]
    show _ = _
    simp
  · have above : 0 < ((m % m' : ℕ) : ℚ) / m' :=
      div_pos (by exact_mod_cast Nat.pos_of_ne_zero exact) scale
    rw [if_neg exact]
    rcases lt_trichotomy (2 * (m % m')) m' with less | same | more
    · have : (2 * (m % m') : ℕ) / (m' : ℚ) < 1 := by
        rw [div_lt_one scale]
        exact_mod_cast less
      rw [Nat.compare_eq_lt.mpr less]
      constructor <;> linarith
    · have : (2 * (m % m') : ℕ) / (m' : ℚ) = 1 := by
        rw [same]
        exact div_self scale.ne'
      rw [Nat.compare_eq_eq.mpr same]
      show _ = _
      linarith
    · have : 1 < (2 * (m % m') : ℕ) / (m' : ℚ) := by
        rw [one_lt_div scale]
        exact_mod_cast more
      rw [Nat.compare_eq_gt.mpr more]
      constructor <;> linarith

theorem keeps_quotient (pos : 0 < m) (pos' : 0 < m') (e e' : ℤ) :
    ∃ v, IsNearest (dyadic m e / dyadic m' e') v ∧
      ∀ s s', Keeps (s / s') v
        (UnpackedFloat.div Format.binary64 (.finite s m e pos) (.finite s' m' e' pos')) := by
  obtain ⟨t, lowest⟩ :
    ∃ t : ℤ, min (e - e') (max (m.log2 + 1 + e - (m'.log2 + 1 + e') - 53) (-1074)) = t := ⟨_, rfl⟩
  obtain ⟨k, shift⟩ : ∃ k : ℕ, (e - e' - t).toNat = k := ⟨_, rfl⟩
  have lengthened : m <<< k = m * 2 ^ k := Nat.shiftLeft_eq m k
  -- A quotient of mantissas may be a bit shorter than the difference of their lengths, which the
  -- extra bit makes up for.
  have wide : 2 ^ 52 ≤ m <<< k / m' ∨ t ≤ -1074 := by
    rcases lt_or_ge (-1074) t with above | low
    · have width : m'.log2 + 1 + 52 ≤ m.log2 + k := by omega
      left
      rw [Nat.le_div_iff_mul_le pos', lengthened]
      calc 2 ^ 52 * m' ≤ 2 ^ 52 * 2 ^ (m'.log2 + 1) := Nat.mul_le_mul_left _ Nat.lt_log2_self.le
        _ ≤ 2 ^ m.log2 * 2 ^ k := by
          rw [← pow_add, ← pow_add]
          exact Nat.pow_le_pow_right two_pos (by omega)
        _ ≤ m * 2 ^ k := Nat.mul_le_mul_right _ (Nat.log2_self_le pos.ne')
    · exact .inr low
  have same : ((m <<< k : ℕ) : ℚ) / m' * 2 ^ t = dyadic m e / dyadic m' e' := by
    have together : t = e - e' - k := by omega
    have nonzero : (m' : ℚ) ≠ 0 := by exact_mod_cast pos'.ne'
    rw [lengthened, dyadic, dyadic, together, zpow_sub₀ (by norm_num), zpow_sub₀ (by norm_num),
      zpow_natCast]
    push_cast
    field_simp
  obtain ⟨v, nearest, keeps⟩ := keeps_roundWithAccuracy (extends_quotient (m <<< k) pos') wide
  refine ⟨v, same ▸ nearest, fun s s' => ?_⟩
  have divided : UnpackedFloat.div Format.binary64 (.finite s m e pos) (.finite s' m' e' pos') =
      UnpackedFloat.roundWithAccuracy Format.binary64 (s / s')
        (m <<< (e - e' - min (e - e')
          (max (m.log2 + 1 + e - (m'.log2 + 1 + e') - 53) (-1074))).toNat / m')
        (min (e - e') (max (m.log2 + 1 + e - (m'.log2 + 1 + e') - 53) (-1074)))
        (UnpackedFloat.accuracyOfFraction
          (m <<< (e - e' - min (e - e')
            (max (m.log2 + 1 + e - (m'.log2 + 1 + e') - 53) (-1074))).toNat % m') m') := rfl
  rw [divided, lowest, shift]
  exact keeps _

theorem exists_isNearest (r : ℚ) : ∃ v, IsNearest r v := by
  have positive {r : ℚ} (pos : 0 < r) : ∃ v, IsNearest r v := by
    have top : 0 < r.num.toNat := by
      have := Rat.num_pos.mpr pos
      omega
    obtain ⟨v, nearest, -⟩ := keeps_quotient top r.den_pos 0 0
    have same : dyadic r.num.toNat 0 / dyadic r.den 0 = r := by
      have whole : ((r.num.toNat : ℤ) : ℚ) = r.num := by
        exact_mod_cast Int.toNat_of_nonneg (Rat.num_pos.mpr pos).le
      rw [dyadic, dyadic, zpow_zero, mul_one,
        mul_one, ← Int.cast_natCast (R := ℚ) r.num.toNat, whole]
      exact Rat.num_div_den r
    exact ⟨v, same ▸ nearest⟩
  rcases lt_trichotomy r 0 with less | rfl | more
  · obtain ⟨v, nearest⟩ := positive (neg_pos.mpr less)
    exact ⟨-v, neg_neg r ▸ nearest.neg⟩
  · exact ⟨0, .self ⟨0, 0, by norm_num, by norm_num, by norm_num⟩⟩
  · exact positive more

theorem signed_div (s s' : UnpackedFloat.Sign) (r r' : ℚ) :
    signed (s / s') (r / r') = signed s r / signed s' r' := by
  cases s <;> cases s'
  · exact (neg_div_neg_eq r r').symm
  · exact (neg_div r' r).symm
  · exact (div_neg r).symm
  · rfl

theorem rounds_div (finite : isFinite x = true) (finite' : isFinite y = true)
    (nonzero : value y ≠ 0) :
    Rounds (x / y) (value x / value y) := by
  rw [isFinite_iff] at finite finite'
  rw [value_eq x, value_eq y] at *
  have same : shape (x / y) =
      packed (UnpackedFloat.div Format.binary64 x.toModel.unpack y.toModel.unpack) := rfl
  refine PacksNearest.rounds ?_ same
  generalize x.toModel.unpack = u at *
  generalize y.toModel.unpack = w at *
  match u, w, finite, finite', nonzero with
  | u, .zero s', _, _, nonzero => exact absurd (number_zero s') nonzero
  | .zero s, .finite s' m' e' pos', _, _, _ =>
    rw [number_zero, zero_div]
    exact packsNearest_zero _
  | .finite s m e pos, .finite s' m' e' pos', _, _, _ =>
    obtain ⟨v, nearest, keeps⟩ := keeps_quotient pos pos' e e'
    rw [number_finite, number_finite, ← signed_div]
    exact .of_keeps (keeps s s') nearest

end Binary64

end EdgeCache
