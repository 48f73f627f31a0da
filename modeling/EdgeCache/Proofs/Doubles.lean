import EdgeCache.Number.Binary64
import Mathlib.Data.Rat.Floor
import Mathlib.Tactic.IntervalCases

/-! The numbers that doubles stand for, and their order. Infinities count as the powers of two right
beyond all finite doubles, so that doubles that are numbers have the order of those numbers. -/

namespace EdgeCache

open Float.Model

namespace Binary64

variable {m m' : ℕ} {e e' : ℤ} {s s' : UnpackedFloat.Sign} {u w : UnpackedFloat}

def dyadic (m : ℕ) (e : ℤ) : ℚ := m * 2 ^ e

def bound : ℚ := 2 ^ (1024 : ℤ)

def Parts.value (p : Parts) : ℚ := if p.negative then -dyadic p.mantissa p.exponent
    else dyadic p.mantissa p.exponent

/-- The number of a shape; what is not a number counts as zero. -/
def Shape.value : Shape → ℚ
  | nan => 0
  | infinite negative => if negative then -bound else bound
  | finite p => p.value

def value (x : Float) : ℚ := (shape x).value

theorem bound_pos : 0 < bound := zpow_pos (by norm_num) _

theorem dyadic_nonneg (m : ℕ) (e : ℤ) : 0 ≤ dyadic m e :=
  mul_nonneg (Nat.cast_nonneg _) (zpow_nonneg (by norm_num) _)

theorem dyadic_pos (pos : 0 < m) (e : ℤ) : 0 < dyadic m e :=
  mul_pos (Nat.cast_pos.mpr pos) (zpow_pos (by norm_num) _)

/-- The mantissa has 53 bits, or fewer with the least exponent. -/
structure Canonical (m : ℕ) (e : ℤ) : Prop where
  digits : m < 2 ^ 53
  least : -1074 ≤ e
  full : -1074 < e → 2 ^ 52 ≤ m

theorem Canonical.dyadic_lt (h : Canonical m e) : dyadic m e < 2 ^ (e + 53) := by
  have digits : (m : ℚ) < 2 ^ (53 : ℤ) := by exact_mod_cast h.digits
  rw [add_comm, zpow_add₀ (by norm_num)]
  exact mul_lt_mul_of_pos_right digits (zpow_pos (by norm_num) _)

theorem Canonical.le_dyadic (h : Canonical m e) (above : -1074 < e) :
    (2 : ℚ) ^ (e + 52) ≤ dyadic m e := by
  have full : (2 : ℚ) ^ (52 : ℤ) ≤ m := by exact_mod_cast h.full above
  rw [add_comm, zpow_add₀ (by norm_num)]
  exact mul_le_mul_of_nonneg_right full (zpow_nonneg (by norm_num) _)

theorem Canonical.dyadic_lt_bound (h : Canonical m e) (room : e ≤ 971) : dyadic m e < bound :=
  h.dyadic_lt.trans_le (zpow_le_zpow_right₀ (by norm_num) (by omega))

theorem Canonical.bound_le_dyadic (h : Canonical m e) (large : 971 < e) : bound ≤ dyadic m e :=
  (zpow_le_zpow_right₀ (by norm_num) (by omega)).trans (h.le_dyadic (by omega))

theorem Canonical.dyadic_lt_dyadic (h : Canonical m e) (h' : Canonical m' e') (lower : e < e') :
    dyadic m e < dyadic m' e' :=
  calc dyadic m e < 2 ^ (e + 53) := h.dyadic_lt
    _ ≤ 2 ^ (e' + 52) := zpow_le_zpow_right₀ (by norm_num) (by omega)
    _ ≤ dyadic m' e' := h'.le_dyadic (by have := h.least; omega)

theorem Canonical.even_of_large (h : Canonical m e) (large : 2 ^ 53 ≤ dyadic m e) :
    ∃ k : ℕ, dyadic m e = 2 * k := by
  have above : 0 < e := by
    by_contra low
    have short : (2 : ℚ) ^ (e + 53) ≤ 2 ^ (53 : ℤ) := zpow_le_zpow_right₀ (by norm_num) (by omega)
    exact absurd (h.dyadic_lt.trans_le short) (not_lt.mpr (by exact_mod_cast large))
  obtain ⟨n, rfl⟩ : ∃ n : ℕ, e = n + 1 := ⟨(e - 1).toNat, by omega⟩
  refine ⟨m * 2 ^ n, ?_⟩
  rw [dyadic, zpow_add_one₀ (by norm_num), zpow_natCast]
  push_cast
  ring

theorem Canonical.compare_eq (h : Canonical m e) (h' : Canonical m' e') :
    (compare e e').then (compare m m') = compare (dyadic m e) (dyadic m' e') := by
  rcases lt_trichotomy e e' with lower | rfl | higher
  · rw [compare_lt_iff_lt.mpr lower, compare_lt_iff_lt.mpr (h.dyadic_lt_dyadic h' lower)]
    rfl
  · have scale : (0 : ℚ) < 2 ^ e := zpow_pos (by norm_num) _
    rw [compare_eq_iff_eq.mpr rfl, dyadic, dyadic]
    show compare m m' = _
    rcases lt_trichotomy m m' with less | rfl | more
    · rw [compare_lt_iff_lt.mpr less,
        compare_lt_iff_lt.mpr (mul_lt_mul_of_pos_right (by exact_mod_cast less) scale)]
    · rw [compare_eq_iff_eq.mpr rfl, compare_eq_iff_eq.mpr rfl]
    · rw [compare_gt_iff_gt.mpr more,
        compare_gt_iff_gt.mpr (mul_lt_mul_of_pos_right (by exact_mod_cast more) scale)]
  · rw [compare_gt_iff_gt.mpr higher, compare_gt_iff_gt.mpr (h'.dyadic_lt_dyadic h higher)]
    rfl

theorem abs_value (p : Parts) : |p.value| = dyadic p.mantissa p.exponent := by
  rw [Parts.value]
  split
  · rw [abs_neg, abs_of_nonneg (dyadic_nonneg _ _)]
  · exact abs_of_nonneg (dyadic_nonneg _ _)

/-! Doubles in the unpacked form in which they are compared and multiplied. -/

def Shape.ofUnpacked : UnpackedFloat → Shape
  | .notANumber => .nan
  | .infinity s => .infinite (s == .negative)
  | .zero s => .finite ⟨s == .negative, 0, -1074⟩
  | .finite s m e _ => .finite ⟨s == .negative, m, e⟩

theorem Shape.ofUnpacked_finite (s : UnpackedFloat.Sign) (m : ℕ) (e : ℤ) (pos : 0 < m) :
    ofUnpacked (.finite s m e pos) = .finite ⟨s == .negative, m, e⟩ := rfl

def number (u : UnpackedFloat) : ℚ := (Shape.ofUnpacked u).value

/-- What is finite is canonical, and a packed double has room for it. -/
def Fits (u : UnpackedFloat) : Prop := ∀ s m e pos, u = .finite s m e pos → Canonical m e ∧ e ≤ 971

theorem Fits.canonical {pos : 0 < m} (h : Fits (.finite s m e pos)) : Canonical m e :=
  (h s m e pos rfl).1

theorem Fits.room {pos : 0 < m} (h : Fits (.finite s m e pos)) : e ≤ 971 := (h s m e pos rfl).2

theorem sign_ofNat {n : ℕ} (bit : n < 2) :
    (UnpackedFloat.Sign.ofBitVec (BitVec.ofNat 1 n) == .negative) = (n == 1) := by
  interval_cases n <;> rfl

section Fields

variable (b : BitVec Format.binary64.numBits)

theorem sign_unpackSign :
    (UnpackedFloat.Sign.ofBitVec (UnpackedFloat.unpackSign b) == .negative) =
      (b.toNat / Word.half % 2 == 1) := by
  have first : UnpackedFloat.unpackSign b = .ofNat 1 (b.toNat / Word.half % 2) := by
    apply BitVec.eq_of_toNat_eq
    show (b.extractLsb 63 63).toNat = b.toNat / Word.half % 2 % 2
    rw [BitVec.extractLsb_toNat, Nat.mod_mod, Nat.shiftRight_eq_div_pow]
    rfl
  rw [first, sign_ofNat (Nat.mod_lt _ (by norm_num))]

theorem toNat_unpackExponent :
    (UnpackedFloat.unpackExponent b).toNat = b.toNat / twoTo 52 % twoTo 11 := by
  simp [UnpackedFloat.unpackExponent, BitVec.extractLsb_toNat, Nat.shiftRight_eq_div_pow, twoTo]

theorem toNat_unpackMantissa : (UnpackedFloat.unpackMantissa b).toNat = b.toNat % twoTo 52 := by
  simp [UnpackedFloat.unpackMantissa, twoTo]

theorem toNat_full :
    (1#1 ++ UnpackedFloat.unpackMantissa b).toNat = b.toNat % twoTo 52 + twoTo 52 := by
  rw [BitVec.toNat_append, ← Nat.shiftLeft_add_eq_or_of_lt (BitVec.isLt _), toNat_unpackMantissa,
    add_comm]
  rfl

theorem ofBits_unpack :
    ofBits b.toNat = Shape.ofUnpacked (UnpackedFloat.unpack Format.binary64 b) := by
  have ones : UnpackedFloat.unpackExponent b = -1#_ ↔ b.toNat / twoTo 52 % twoTo 11 = 2047 := by
    rw [← toNat_unpackExponent, ← BitVec.toNat_inj]
    rfl
  have zeros : UnpackedFloat.unpackExponent b = 0#_ ↔ b.toNat / twoTo 52 % twoTo 11 = 0 := by
    rw [← toNat_unpackExponent, ← BitVec.toNat_inj]
    rfl
  have empty : UnpackedFloat.unpackMantissa b = 0#_ ↔ b.toNat % twoTo 52 = 0 := by
    rw [← toNat_unpackMantissa, ← BitVec.toNat_inj]
    rfl
  unfold ofBits UnpackedFloat.unpack
  dsimp only
  by_cases last : b.toNat / twoTo 52 % twoTo 11 = 2047
  · rw [if_pos last, if_pos (ones.mpr last)]
    by_cases infinite : b.toNat % twoTo 52 = 0
    · rw [if_pos infinite, if_pos (empty.mpr infinite), ← sign_unpackSign]
      rfl
    · rw [if_neg infinite, if_neg (mt empty.mp infinite)]
      rfl
  · rw [if_neg last, if_neg (mt ones.mp last)]
    by_cases first : b.toNat / twoTo 52 % twoTo 11 = 0
    · rw [if_pos first, if_pos (zeros.mpr first)]
      by_cases zero : b.toNat % twoTo 52 = 0
      · rw [dif_pos (empty.mpr zero), ← sign_unpackSign, zero]
        rfl
      · rw [dif_neg (mt empty.mp zero), Shape.ofUnpacked_finite, sign_unpackSign,
          toNat_unpackExponent, toNat_unpackMantissa, first]
        rfl
    · rw [if_neg first, if_neg (mt zeros.mp first), Shape.ofUnpacked_finite, sign_unpackSign,
        toNat_unpackExponent, toNat_full]
      rfl

end Fields

theorem shape_eq (x : Float) : shape x = Shape.ofUnpacked x.toModel.unpack :=
  ofBits_unpack x.toModel.toBits.toBitVec

theorem value_eq (x : Float) : value x = number x.toModel.unpack :=
  congrArg Shape.value (shape_eq x)

theorem canonical_of_ofBits {n : ℕ} {p : Parts} (read : ofBits n = .finite p) :
    Canonical p.mantissa p.exponent ∧ p.exponent ≤ 971 := by
  have fraction : n % twoTo 52 < twoTo 52 := Nat.mod_lt _ (by decide)
  have exponent : n / twoTo 52 % twoTo 11 < twoTo 11 := Nat.mod_lt _ (by decide)
  have bits : twoTo 52 = 2 ^ 52 := rfl
  have room : twoTo 11 = 2048 := rfl
  unfold ofBits at read
  dsimp only at read
  split at read
  · split at read <;> cases read
  · split at read <;> obtain rfl := Shape.finite.inj read
    · exact ⟨⟨by dsimp only; omega, le_rfl, fun above => absurd above (lt_irrefl _)⟩, by norm_num⟩
    · exact ⟨⟨by dsimp only; omega, by dsimp only; omega, fun _ => Nat.le_add_left _ _⟩,
        by dsimp only; omega⟩

theorem exists_parts {x : Float} (finite : isFinite x = true) :
    ∃ p : Parts, value x = p.value ∧ Canonical p.mantissa p.exponent := by
  unfold isFinite at finite
  match read : shape x with
  | .nan | .infinite s =>
    rw [read] at finite
    cases finite
  | .finite p => exact ⟨p, by rw [value, read]; rfl, (canonical_of_ofBits read).1⟩

theorem fits_unpack (x : Float) : Fits x.toModel.unpack := by
  intro s m e pos unpacked
  have read := shape_eq x
  rw [unpacked] at read
  exact canonical_of_ofBits read

theorem packComponents_toNat (s : UnpackedFloat.Sign) (e : BitVec 11) (m : BitVec 52) :
    (UnpackedFloat.packComponents Format.binary64 s e m).toNat =
      s.toBitVec.toNat * 2 ^ 63 + e.toNat * 2 ^ 52 + m.toNat := by
  rw [UnpackedFloat.packComponents, BitVec.toNat_append,
    BitVec.toNat_append, ← Nat.shiftLeft_add_eq_or_of_lt m.isLt, ← Nat.shiftLeft_add_eq_or_of_lt
      e.isLt, Nat.shiftLeft_eq, Nat.shiftLeft_eq]
  ring

theorem ofBits_packComponents (s : UnpackedFloat.Sign) (e : BitVec 11) (m : BitVec 52) :
    ofBits (UnpackedFloat.packComponents Format.binary64 s e m).toNat =
      if e.toNat = 2047 then if m.toNat = 0 then .infinite (s == .negative) else .nan
      else if e.toNat = 0 then .finite ⟨s == .negative, m.toNat, -1074⟩
      else .finite ⟨s == .negative, m.toNat + 2 ^ 52, (e.toNat : ℤ) - 1075⟩ := by
  have exponent := e.isLt
  have mantissa := m.isLt
  rw [packComponents_toNat]
  generalize e.toNat = e at *
  generalize m.toNat = m at *
  have high : (s.toBitVec.toNat * 2 ^ 63 + e * 2 ^ 52 + m) / Word.half = s.toBitVec.toNat := by
    rw [show Word.half = 2 ^ 63 from rfl]
    omega
  have sign : (s.toBitVec.toNat % 2 == 1) = (s == .negative) := by cases s <;> rfl
  have middle : (s.toBitVec.toNat * 2 ^ 63 + e * 2 ^ 52 + m) / 2 ^ 52 % 2 ^ 11 = e := by omega
  have low : (s.toBitVec.toNat * 2 ^ 63 + e * 2 ^ 52 + m) % 2 ^ 52 = m := by omega
  simp only [ofBits, high, sign, twoTo, Nat.pow_eq, middle, low]

theorem log2_add_one_eq_iff (digits : m < 2 ^ 53) : m.log2 + 1 = 53 ↔ 2 ^ 52 ≤ m := by
  constructor
  · intro width
    have nonzero : m ≠ 0 := by
      rintro rfl
      simp at width
    have last : m.log2 = 52 := by omega
    exact last ▸ Nat.log2_self_le nonzero
  · intro full
    rw [(Nat.log2_eq_iff (k := 52) (by omega)).mpr ⟨full, digits⟩]

theorem ofBits_normal (h : Canonical m e) (full : 2 ^ 52 ≤ m) (room : e ≤ 971) :
    ofBits (UnpackedFloat.packComponents Format.binary64 s (.ofNat 11 (e + 1075).toNat)
      (.ofNat 52 m)).toNat =
      .finite ⟨s == .negative, m, e⟩ := by
  have digits := h.digits
  have least := h.least
  have exponent : (BitVec.ofNat 11 (e + 1075).toNat).toNat = (e + 1075).toNat := by
    rw [BitVec.toNat_ofNat, Nat.mod_eq_of_lt (by omega)]
  have mantissa : (BitVec.ofNat 52 m).toNat + 2 ^ 52 = m := by
    rw [BitVec.toNat_ofNat]
    omega
  have back : ((e + 1075).toNat : ℤ) - 1075 = e := by omega
  rw [ofBits_packComponents, exponent, mantissa, back, if_neg (by omega), if_neg (by omega)]

theorem ofBits_subnormal (h : Canonical m e) (few : m < 2 ^ 52) :
    ofBits (UnpackedFloat.packComponents Format.binary64 s 0#11 (.ofNat 52 m)).toNat =
      .finite ⟨s == .negative, m, e⟩ := by
  have low : e = -1074 := le_antisymm (not_lt.mp fun above => few.not_ge (h.full above)) h.least
  have mantissa : (BitVec.ofNat 52 m).toNat = m := by rw [BitVec.toNat_ofNat, Nat.mod_eq_of_lt few]
  rw [ofBits_packComponents, mantissa, low]
  rfl

theorem ofBits_pack_finite (h : Canonical m e) (pos : 0 < m) :
    ofBits (UnpackedFloat.pack Format.binary64 (.finite s m e pos)).toNat =
      if e ≤ 971 then .finite ⟨s == .negative, m, e⟩ else .infinite (s == .negative) := by
  have least := h.least
  have biased : e + Format.binary64.exponentBias + Format.binary64.mantissaBitsWithoutImplicit =
      e + 1075 := by
    rw [show (Format.binary64.exponentBias : ℤ) = 1023 from rfl]
    dsimp only [Format.binary64]
    omega
  unfold UnpackedFloat.pack
  dsimp only
  rw [biased]
  split
  · rename_i large
    have beyond : ¬ e ≤ 971 := by omega
    rw [if_neg beyond, UnpackedFloat.packedInfinity, ofBits_packComponents]
    rfl
  · rename_i small
    have room : e ≤ 971 := by omega
    rw [if_pos room]
    split
    · rename_i normal
      exact ofBits_normal h ((log2_add_one_eq_iff h.digits).mp normal) room
    · rename_i subnormal
      exact ofBits_subnormal h
        (lt_of_not_ge fun full => subnormal ((log2_add_one_eq_iff h.digits).mpr full))

theorem ofBits_pack_zero :
    ofBits (UnpackedFloat.pack Format.binary64 (.zero s)).toNat = .finite ⟨s == .negative, 0,
      -1074⟩ := by
  cases s <;> rfl

theorem ofBits_pack_infinity :
    ofBits (UnpackedFloat.pack Format.binary64 (.infinity s)).toNat =
      .infinite (s == .negative) := by
  cases s <;> rfl

theorem ofBits_pack_notANumber :
    ofBits (UnpackedFloat.pack Format.binary64 .notANumber).toNat = .nan := rfl

/-! The order of doubles is that of their numbers. -/

theorem number_zero (s : UnpackedFloat.Sign) : number (.zero s) = 0 := by
  have parts : number (.zero s) = Parts.value ⟨s == .negative, 0, -1074⟩ := rfl
  rw [parts, Parts.value, dyadic, Nat.cast_zero, zero_mul, neg_zero, ite_self]

theorem number_lt_bound (h : Fits u) (other : u ≠ .infinity .positive) : number u < bound := by
  match u, h, other with
  | .notANumber, _, _ => exact bound_pos
  | .infinity .negative, _, _ => exact (neg_lt_zero.mpr bound_pos).trans bound_pos
  | .zero s, _, _ => exact (number_zero s).trans_lt bound_pos
  | .finite .positive m e pos, h, _ => exact h.canonical.dyadic_lt_bound h.room
  | .finite .negative m e pos, _, _ => exact (neg_lt_zero.mpr (dyadic_pos pos e)).trans bound_pos

theorem neg_bound_lt_number (h : Fits u) (other : u ≠ .infinity .negative) : -bound < number u := by
  have below := neg_lt_zero.mpr bound_pos
  match u, h, other with
  | .notANumber, _, _ => exact below
  | .infinity .positive, _, _ => exact below.trans bound_pos
  | .zero s, _, _ => exact below.trans_eq (number_zero s).symm
  | .finite .negative m e pos, h, _ => exact neg_lt_neg (h.canonical.dyadic_lt_bound h.room)
  | .finite .positive m e pos, _, _ => exact below.trans (dyadic_pos pos e)

theorem number_le_bound (h : Fits u) : number u ≤ bound := by
  by_cases top : u = .infinity .positive
  · rw [top]
    exact le_rfl
  · exact (number_lt_bound h top).le

theorem neg_bound_le_number (h : Fits u) : -bound ≤ number u := by
  by_cases bottom : u = .infinity .negative
  · rw [bottom]
    exact le_rfl
  · exact (neg_bound_lt_number h bottom).le

theorem compare_neg (a b : ℚ) : compare (-a) (-b) = (compare a b).swap := by
  rcases lt_trichotomy a b with less | rfl | more
  · rw [compare_lt_iff_lt.mpr less, compare_gt_iff_gt.mpr (neg_lt_neg less)]
    rfl
  · rw [compare_eq_iff_eq.mpr rfl, compare_eq_iff_eq.mpr rfl]
    rfl
  · rw [compare_gt_iff_gt.mpr more, compare_lt_iff_lt.mpr (neg_lt_neg more)]
    rfl

theorem compare_number (hu : Fits u) (hw : Fits w) (number₁ : u ≠ .notANumber)
    (number₂ : w ≠ .notANumber) :
    u.compare w = some (compare (number u) (number w)) := by
  have less {a b : ℚ} (h : a < b) : some .lt = some (compare a b) := by rw [compare_lt_iff_lt.mpr h]
  have more {a b : ℚ} (h : b < a) : some .gt = some (compare a b) := by rw [compare_gt_iff_gt.mpr h]
  have same {a b : ℚ} (h : a = b) : some .eq = some (compare a b) := by rw [compare_eq_iff_eq.mpr h]
  have zero := number_zero
  have below {m : ℕ} (pos : 0 < m) (e : ℤ) : -dyadic m e < 0 := neg_lt_zero.mpr (dyadic_pos pos e)
  -- the infinities are beyond all others, then the signs decide, and only doubles of one sign are
  -- compared by their parts
  match u, w, hu, hw, number₁, number₂ with
  | .infinity .positive, .infinity .positive, _, _, _, _ => exact same rfl
  | .infinity .negative, .infinity .negative, _, _, _, _ => exact same rfl
  | .infinity .positive, .infinity .negative, _, h, _, _ => exact more (number_lt_bound h nofun)
  | .infinity .positive, .zero s, _, h, _, _ => exact more (number_lt_bound h nofun)
  | .infinity .positive, .finite s m e pos, _, h, _, _ => exact more (number_lt_bound h nofun)
  | .infinity .negative, .infinity .positive, _, h, _, _ => exact less (neg_bound_lt_number h nofun)
  | .infinity .negative, .zero s, _, h, _, _ => exact less (neg_bound_lt_number h nofun)
  | .infinity .negative, .finite s m e pos, _, h, _, _ => exact less (neg_bound_lt_number h nofun)
  | .zero s, .infinity .positive, h, _, _, _ => exact less (number_lt_bound h nofun)
  | .zero s, .infinity .negative, h, _, _, _ => exact more (neg_bound_lt_number h nofun)
  | .finite s m e pos, .infinity .positive, h, _, _, _ =>
    cases s <;> exact less (number_lt_bound h nofun)
  | .finite s m e pos, .infinity .negative, h, _, _, _ =>
    cases s <;> exact more (neg_bound_lt_number h nofun)
  | .zero s, .zero s', _, _, _, _ => exact same ((zero s).trans (zero s').symm)
  | .zero s, .finite .positive m e pos, _, _, _, _ =>
    exact less ((zero s).trans_lt (dyadic_pos pos e))
  | .zero s, .finite .negative m e pos, _, _, _, _ =>
    exact more ((below pos e).trans_eq (zero s).symm)
  | .finite .positive m e pos, .zero s, _, _, _, _ =>
    exact more ((zero s).trans_lt (dyadic_pos pos e))
  | .finite .negative m e pos, .zero s, _, _, _, _ =>
    exact less ((below pos e).trans_eq (zero s).symm)
  | .finite .negative m e pos, .finite .positive m' e' pos', _, _, _, _ =>
    exact less ((below pos e).trans (dyadic_pos pos' e'))
  | .finite .positive m e pos, .finite .negative m' e' pos', _, _, _, _ =>
    exact more ((below pos' e').trans (dyadic_pos pos e))
  | .finite .positive m e pos, .finite .positive m' e' pos', h, h', _, _ =>
    exact congrArg some (h.canonical.compare_eq h'.canonical)
  | .finite .negative m e pos, .finite .negative m' e' pos', h, h', _, _ =>
    exact congrArg some ((congrArg Ordering.swap (h.canonical.compare_eq h'.canonical)).trans
      (compare_neg _ _).symm)

theorem eq_or_zero_of_compare (compared : u.compare w = some .eq) :
    u = w ∨ ∃ s s', u = .zero s ∧ w = .zero s' := by
  match u, w, compared with
  | .infinity .positive, .infinity .positive, _ => exact .inl rfl
  | .infinity .negative, .infinity .negative, _ => exact .inl rfl
  | .zero s, .zero s', _ => exact .inr ⟨s, s', rfl, rfl⟩
  | .finite .positive m e _, .finite .positive m' e' _, compared =>
    obtain ⟨exponents, mantissas⟩ := Ordering.then_eq_eq.mp (Option.some.inj compared)
    obtain rfl := compare_eq_iff_eq.mp exponents
    obtain rfl := compare_eq_iff_eq.mp mantissas
    exact .inl rfl
  | .finite .negative m e _, .finite .negative m' e' _, compared =>
    obtain ⟨exponents, mantissas⟩ :=
      Ordering.then_eq_eq.mp (Ordering.swap_eq_eq.mp (Option.some.inj compared))
    obtain rfl := compare_eq_iff_eq.mp exponents
    obtain rfl := compare_eq_iff_eq.mp mantissas
    exact .inl rfl

variable {x y : Float}

theorem isNaN_eq_false_iff : isNaN x = false ↔ x.toModel.unpack ≠ .notANumber := by
  rw [isNaN, beq_eq_false_iff_ne, shape_eq]
  refine not_congr ⟨fun read => ?_, fun read => by rw [read]; rfl⟩
  match unpacked : x.toModel.unpack with
  | .notANumber => rfl
  | .infinity s | .zero s | .finite s m e pos => cases unpacked ▸ read

theorem value_le_bound (x : Float) : value x ≤ bound := value_eq x ▸ number_le_bound (fits_unpack x)

theorem neg_bound_le_value (x : Float) : -bound ≤ value x :=
  value_eq x ▸ neg_bound_le_number (fits_unpack x)

theorem compare_value (number₁ : isNaN x = false) (number₂ : isNaN y = false) :
    x.toModel.unpack.compare y.toModel.unpack = some (compare (value x) (value y)) := by
  rw [value_eq, value_eq]
  exact compare_number (fits_unpack x) (fits_unpack y) (isNaN_eq_false_iff.mp number₁)
    (isNaN_eq_false_iff.mp number₂)

theorem isNaN_of_compare {order : Ordering}
    (compared : x.toModel.unpack.compare y.toModel.unpack = some order) :
    isNaN x = false ∧ isNaN y = false := by
  rw [isNaN_eq_false_iff, isNaN_eq_false_iff]
  constructor <;> intro unpacked <;> rw [unpacked] at compared
  · cases compared
  · cases unpacked : x.toModel.unpack <;> rw [unpacked] at compared <;> cases compared

theorem le_iff : x ≤ y ↔ isNaN x = false ∧ isNaN y = false ∧ value x ≤ value y := by
  have compared : x ≤ y ↔ (x.toModel.unpack.compare y.toModel.unpack).any (·.isLE) = true :=
    decide_eq_true_iff
  rw [compared]
  constructor
  · intro below
    obtain ⟨order, known, _⟩ := (Option.any_eq_true _ _).mp below
    obtain ⟨number₁, number₂⟩ := isNaN_of_compare known
    rw [compare_value number₁ number₂] at below
    exact ⟨number₁, number₂, Std.LawfulBCmp.isLE_iff_le.mp below⟩
  · rintro ⟨number₁, number₂, below⟩
    rw [compare_value number₁ number₂]
    exact Std.LawfulBCmp.isLE_iff_le.mpr below

/-! Doubles brought to an integer of 64 bits. -/

def away (r : ℚ) : ℤ := if r < 0 then -⌊-r + 1 / 2⌋ else ⌊r + 1 / 2⌋

theorem away_intCast (n : ℤ) : away n = n := by
  have half (k : ℤ) : ⌊(k : ℚ) + 1 / 2⌋ = k := by
    rw [Int.floor_intCast_add]
    norm_num
  rw [away]
  split
  · rw [← Int.cast_neg, half, neg_neg]
  · exact half n

theorem away_mono {a b : ℚ} (below : a ≤ b) : away a ≤ away b := by
  unfold away
  split <;> split
  · exact neg_le_neg (Int.floor_le_floor (by linarith))
  · have : 0 ≤ ⌊-a + 1 / 2⌋ := Int.floor_nonneg.mpr (by linarith)
    have : 0 ≤ ⌊b + 1 / 2⌋ := Int.floor_nonneg.mpr (by linarith)
    omega
  · linarith
  · exact Int.floor_le_floor (by linarith)

theorem away_neg (r : ℚ) : away (-r) = -away r := by
  unfold away
  rcases lt_trichotomy r 0 with less | rfl | more
  · rw [if_neg (by linarith), if_pos less, neg_neg]
  · norm_num
  · rw [if_pos (by linarith), if_neg (by linarith), neg_neg]

theorem abs_away_le {r : ℚ} {n : ℤ} (h : |r| ≤ n) : |away r| ≤ n := by
  obtain ⟨low, high⟩ := abs_le.mp h
  have lower := away_mono low
  rw [away_neg, away_intCast] at lower
  exact abs_le.mpr ⟨lower, (away_mono high).trans_eq (away_intCast n)⟩

def within64 (r : ℚ) : ℤ := clamp Word.least Word.greatest (away r)

theorem within64_mono {a b : ℚ} (below : a ≤ b) : within64 a ≤ within64 b :=
  max_le_max le_rfl (min_le_min le_rfl (away_mono below))

theorem within64_intCast (n : ℤ) : within64 n = clamp Word.least Word.greatest n := by
  rw [within64, away_intCast]

theorem natCast_div_eq_add (num : ℕ) {den : ℕ} (pos : 0 < den) :
    (num : ℚ) / den = (num / den : ℕ) + (num % den : ℕ) / (den : ℚ) := by
  have scale : (den : ℚ) ≠ 0 := by exact_mod_cast pos.ne'
  field_simp
  exact_mod_cast (Nat.div_add_mod num den).symm

theorem divide_halfUp (num : ℕ) {den : ℕ} (pos : 0 < den) :
    (Rounding.halfUp.divide num den : ℤ) = ⌊(num : ℚ) / den + 1 / 2⌋ := by
  have scale : (0 : ℚ) < den := by exact_mod_cast pos
  have rest : num % den < den := Nat.mod_lt _ pos
  have low : (0 : ℚ) ≤ (num % den : ℕ) / (den : ℚ) := by positivity
  have high : ((num % den : ℕ) : ℚ) / den < 1 := by
    rw [div_lt_one scale]
    exact_mod_cast rest
  symm
  rw [Int.floor_eq_iff, Rounding.divide, natCast_div_eq_add num pos]
  split
  · rename_i half
    have : (1 : ℚ) / 2 ≤ (num % den : ℕ) / (den : ℚ) := by
      rw [div_le_div_iff₀ two_pos scale]
      exact_mod_cast (by omega : 1 * den ≤ num % den * 2)
    rw [Int.cast_natCast, Nat.cast_add_one]
    constructor <;> linarith
  · rename_i less
    have : ((num % den : ℕ) : ℚ) / den < 1 / 2 := by
      rw [div_lt_div_iff₀ scale two_pos]
      exact_mod_cast (by omega : num % den * 2 < 1 * den)
    rw [Int.cast_natCast]
    constructor <;> linarith

theorem scaled_halfUp (p : Parts) :
    (p.scaled 1 .halfUp : ℤ) = ⌊dyadic p.mantissa p.exponent + 1 / 2⌋ := by
  rw [Parts.scaled, dyadic]
  match p.exponent with
  | .ofNat e =>
    have whole : (p.mantissa : ℚ) * 2 ^ (Int.ofNat e) = ((p.mantissa * twoTo e * 1 : ℕ) : ℤ) := by
      simp [twoTo]
    rw [whole, Int.floor_intCast_add]
    norm_num
  | .negSucc e =>
    have part : (p.mantissa : ℚ) * 2 ^ (Int.negSucc e) =
        (p.mantissa * 1 : ℕ) / (twoTo (e + 1) : ℕ) := by
      simp [twoTo, zpow_negSucc, div_eq_mul_inv]
    rw [part]
    exact divide_halfUp _ (Nat.two_pow_pos _)

theorem Parts.round_eq (p : Parts) : p.round = away p.value := by
  rw [Parts.round, Parts.signed, scaled_halfUp, Parts.value, away]
  have := dyadic_nonneg p.mantissa p.exponent
  split
  · split
    · rw [neg_neg]
    · have zero : dyadic p.mantissa p.exponent = 0 := by linarith
      rw [zero]
      norm_num
  · rw [if_neg (by linarith)]

theorem half_le_bound : (2 : ℚ) ^ 63 ≤ bound := by
  rw [bound, ← zpow_natCast]
  exact zpow_le_zpow_right₀ (by norm_num) (by norm_num)

theorem greatest_le_away_bound : Word.greatest ≤ away bound := by
  have below : (Word.greatest : ℚ) ≤ 2 ^ 63 := by norm_num [Word.greatest, Word.half, twoTo]
  exact (away_intCast _).symm.trans_le (away_mono (below.trans half_le_bound))

theorem away_neg_bound_le_least : away (-bound) ≤ Word.least := by
  have least : (Word.least : ℚ) = -2 ^ 63 := by norm_num [Word.least, Word.half, twoTo]
  refine (away_mono ?_).trans_eq (away_intCast Word.least)
  rw [least]
  exact neg_le_neg half_le_bound

theorem roundToInt64_eq (number : isNaN x = false) : roundToInt64 x = within64 (value x) := by
  have order : Word.least ≤ Word.greatest := by decide
  have top := greatest_le_away_bound
  have bottom := away_neg_bound_le_least
  unfold roundToInt64 toIntBy value within64 clamp
  match read : shape x with
  | .nan => exact absurd number (by rw [isNaN, read]; decide)
  | .infinite true =>
    show Word.least = max Word.least (min Word.greatest (away (-bound)))
    omega
  | .infinite false =>
    show Word.greatest = max Word.least (min Word.greatest (away bound))
    omega
  | .finite p =>
    rw [Shape.value, ← Parts.round_eq]

end Binary64

end EdgeCache
