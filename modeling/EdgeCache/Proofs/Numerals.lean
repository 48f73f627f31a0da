import EdgeCache.Number.Decimal
import EdgeCache.Proofs.Rounded
import EdgeCache.Text.Blank
import Mathlib.Data.List.TakeWhile

/-! Doubles from whole numbers and from decimal numerals. What is read from a numeral is a nearest
double to the number that the numeral stands for, however many digits it has. -/

namespace EdgeCache

open Float.Model

namespace Binary64

variable {r : ℚ} {m k : ℕ} {e : ℤ} {s : UnpackedFloat.Sign}

/-! Numbers that leave the doubles at either end. -/

theorem packsNearest_infinity (beyond : bound ≤ r) : PacksNearest (.infinity .positive) r := by
  obtain ⟨v, nearest⟩ := exists_isNearest r
  have same : packed (.infinity .positive) = .infinite false := ofBits_pack_infinity
  rw [PacksNearest, same]
  exact ⟨nofun, v, nearest, (cut_of_bound_le (nearest.grid_le onGrid_bound beyond)).symm⟩

theorem isNearest_zero (tiny : |r| ≤ 2 ^ (-1075 : ℤ)) : IsNearest r 0 := by
  have scale : (0 : ℚ) < 2 ^ (-1074 : ℤ) := zpow_pos (by norm_num) _
  obtain ⟨q, rfl⟩ : ∃ q, r = q * 2 ^ (-1074 : ℤ) := ⟨_, (div_mul_cancel₀ r scale.ne').symm⟩
  have half : (2 : ℚ) ^ (-1075 : ℤ) = 1 / 2 * 2 ^ (-1074 : ℤ) := by
    rw [show (-1075 : ℤ) = -1074 - 1 by norm_num, zpow_sub_one₀ (by norm_num)]
    ring
  rw [abs_mul, abs_of_pos scale, half] at tiny
  have near : |q - (0 : ℕ)| ≤ 1 / 2 := by
    rw [Nat.cast_zero, sub_zero]
    exact le_of_mul_le_mul_right tiny scale
  have nearest := isNearest_of_half (n := 0) (t := -1074) (by norm_num) le_rfl near fun above =>
    absurd above (lt_irrefl _)
  rwa [dyadic_zero] at nearest

theorem packsNearest_tiny (tiny : |r| ≤ 2 ^ (-1075 : ℤ)) (s : UnpackedFloat.Sign) :
    PacksNearest (.zero s) r :=
  ⟨(packsNearest_zero s).1, 0, isNearest_zero tiny,
    by rw [value_packed_zero, cut_of_lt_bound le_rfl bound_pos]⟩

theorem two_pow_le_ten_pow (k : ℕ) : (2 : ℚ) ^ ((3 * k : ℕ) : ℤ) ≤ 10 ^ (k : ℤ) := by
  rw [zpow_natCast, zpow_natCast, pow_mul]
  exact pow_le_pow_left₀ (by norm_num) (by norm_num) k

theorem bound_le_ten_pow (large : 400 ≤ e) : bound ≤ 10 ^ e := by
  have more := two_pow_le_ten_pow 400
  calc bound ≤ 2 ^ ((3 * 400 : ℕ) : ℤ) := zpow_le_zpow_right₀ (by norm_num) (by norm_num)
    _ ≤ 10 ^ ((400 : ℕ) : ℤ) := more
    _ ≤ 10 ^ e := zpow_le_zpow_right₀ (by norm_num) large

theorem ten_pow_le_tiny (small : e ≤ -400) : (10 : ℚ) ^ e ≤ 2 ^ (-1075 : ℤ) := by
  have more := two_pow_le_ten_pow 400
  calc (10 : ℚ) ^ e ≤ 10 ^ (-((400 : ℕ) : ℤ)) := zpow_le_zpow_right₀ (by norm_num) small
    _ = (10 ^ ((400 : ℕ) : ℤ))⁻¹ := zpow_neg _ _
    _ ≤ (2 ^ ((3 * 400 : ℕ) : ℤ))⁻¹ := inv_anti₀ (zpow_pos (by norm_num) _) more
    _ = 2 ^ (-((3 * 400 : ℕ) : ℤ)) := (zpow_neg _ _).symm
    _ ≤ 2 ^ (-1075 : ℤ) := zpow_le_zpow_right₀ (by norm_num) (by norm_num)

/-! A mantissa times a power of ten. -/

theorem le_mul_ten_pow (pos : 0 < m) (large : 400 ≤ e) : bound ≤ m * 10 ^ e := by
  have one : (1 : ℚ) ≤ m := by exact_mod_cast pos
  exact (bound_le_ten_pow large).trans (le_mul_of_one_le_left (zpow_nonneg (by norm_num) _) one)

theorem mul_ten_pow_le (small : e < -(2048 + m.log2)) : |(m : ℚ) * 10 ^ e| ≤ 2 ^ (-1075 : ℤ) := by
  have power : (10 : ℚ) ^ e ≤ 2 ^ e := by
    obtain ⟨k, rfl⟩ : ∃ k : ℕ, e = -k := ⟨e.natAbs, by omega⟩
    rw [zpow_neg, zpow_neg, zpow_natCast, zpow_natCast]
    exact inv_anti₀ (pow_pos two_pos k) (pow_le_pow_left₀ (by norm_num) (by norm_num) k)
  have width : (m : ℚ) ≤ 2 ^ ((m.log2 + 1 : ℕ) : ℤ) := by
    rw [zpow_natCast]
    exact_mod_cast Nat.lt_log2_self.le
  rw [abs_of_nonneg (mul_nonneg (Nat.cast_nonneg _) (zpow_nonneg (by norm_num) _))]
  calc (m : ℚ) * 10 ^ e ≤ 2 ^ ((m.log2 + 1 : ℕ) : ℤ) * 2 ^ e :=
        mul_le_mul width power (zpow_nonneg (by norm_num) _) (zpow_nonneg (by norm_num) _)
    _ = 2 ^ (((m.log2 + 1 : ℕ) : ℤ) + e) := (zpow_add₀ (by norm_num) _ _).symm
    _ ≤ 2 ^ (-1075 : ℤ) := zpow_le_zpow_right₀ (by norm_num) (by push_cast; omega)

/-- Whole powers of ten keep the mantissa exact; 53 bits behind it are enough to round. -/
theorem keeps_whole (pos : 0 < m) (k : ℕ) :
    ∃ v, IsNearest (m * 10 ^ (k : ℤ)) v ∧
      ∀ s, Keeps s v (UnpackedFloat.roundWithAccuracy Format.binary64 s (m <<< 53 * 10 ^ k)
        (-53) .exact) := by
  have lengthened : m <<< 53 = m * 2 ^ 53 := Nat.shiftLeft_eq m 53
  have start :
      Extends ((m <<< 53 * 10 ^ k : ℕ) : ℚ) (.ofMantissaAndAccuracy (m <<< 53 * 10 ^ k) .exact) :=
      rfl
  have wide : 2 ^ 52 ≤ m <<< 53 * 10 ^ k ∨ (-53 : ℤ) ≤ -1074 := by
    have : 1 ≤ 10 ^ k := Nat.one_le_pow _ _ (by norm_num)
    left
    calc 2 ^ 52 ≤ m <<< 53 * 1 := by rw [lengthened]; omega
      _ ≤ m <<< 53 * 10 ^ k := Nat.mul_le_mul_left _ this
  have same : ((m <<< 53 * 10 ^ k : ℕ) : ℚ) * 2 ^ (-53 : ℤ) = m * 10 ^ (k : ℤ) := by
    rw [lengthened, zpow_natCast, zpow_neg]
    push_cast
    field_simp
  obtain ⟨v, nearest, keeps⟩ := keeps_roundWithAccuracy start wide
  exact ⟨v, same ▸ nearest, keeps⟩

theorem packsNearest_scientific (m : ℕ) (e : ℤ) :
    PacksNearest (UnpackedFloat.ofScientific Format.binary64 m e) (m * 10 ^ e) := by
  unfold UnpackedFloat.ofScientific
  by_cases zero : m = 0
  · rw [dif_pos zero, zero, Nat.cast_zero, zero_mul]
    exact packsNearest_zero _
  have pos : 0 < m := Nat.pos_of_ne_zero zero
  rw [dif_neg zero]
  -- The bounds on the exponent are coarse: they only keep the powers of ten small, and both lie
  -- well outside of the doubles.
  by_cases large : e > 2 ^ Format.binary64.exponentBits
  · rw [if_pos large]
    dsimp only [Format.binary64] at large
    exact packsNearest_infinity (le_mul_ten_pow pos (by omega))
  rw [if_neg large]
  by_cases small : e < -((2 ^ Format.binary64.exponentBits : ℤ) + m.log2)
  · rw [if_pos small]
    exact packsNearest_tiny (mul_ten_pow_le small) _
  rw [if_neg small]
  by_cases whole : 0 ≤ e
  · rw [if_pos whole]
    obtain ⟨k, rfl⟩ : ∃ k : ℕ, e = k := ⟨e.toNat, by omega⟩
    obtain ⟨v, nearest, keeps⟩ := keeps_whole pos k
    exact .of_keeps (keeps .positive) nearest
  · rw [if_neg whole]
    obtain ⟨k, rfl⟩ : ∃ k : ℕ, e = -k := ⟨e.natAbs, by omega⟩
    have places : (-(-(k : ℤ))).toNat = k := by omega
    obtain ⟨v, nearest, keeps⟩ :=
      keeps_quotient pos (Nat.pow_pos (n := (-(-(k : ℤ))).toNat) (by decide : 0 < 10)) 0 0
    have same : dyadic m 0 / dyadic (10 ^ (-(-(k : ℤ))).toNat) 0 = m * 10 ^ (-(k : ℤ)) := by
      rw [places, dyadic, dyadic, zpow_zero, mul_one, mul_one, zpow_neg, zpow_natCast]
      push_cast
      rfl
    exact .of_keeps (keeps .positive .positive) (same ▸ nearest)

/-! Whole numbers. -/

theorem rounds_toFloat (n : UInt64) : Rounds n.toFloat n.toNat := by
  have kept := packsNearest_normalize n.toNat 0 .positive
  rw [zpow_zero, mul_one] at kept
  exact kept.rounds rfl

theorem shape_powersOfTen : ∀ k : Fin Float.exactlyRepresentablePowersOfTen.size,
    shape Float.exactlyRepresentablePowersOfTen[k.val] =
      .finite ⟨false, 10 ^ k.val * 2 ^ 52 / 2 ^ (10 ^ k.val).log2, (10 ^ k.val).log2 - 52⟩ ∧
    10 ^ k.val * 2 ^ 52 % 2 ^ (10 ^ k.val).log2 = 0 := by
  decide +kernel

theorem value_powersOfTen (inside : k < Float.exactlyRepresentablePowersOfTen.size) :
    isFinite Float.exactlyRepresentablePowersOfTen[k] = true ∧
    value Float.exactlyRepresentablePowersOfTen[k] = 10 ^ k := by
  obtain ⟨read, exact⟩ := shape_powersOfTen ⟨k, inside⟩
  rw [isFinite, value, read]
  refine ⟨rfl, ?_⟩
  have whole : 10 ^ k * 2 ^ 52 / 2 ^ (10 ^ k).log2 * 2 ^ (10 ^ k).log2 = 10 ^ k * 2 ^ 52 :=
    Nat.div_mul_cancel (Nat.dvd_of_mod_eq_zero exact)
  have parts : ((10 ^ k * 2 ^ 52 / 2 ^ (10 ^ k).log2 : ℕ) : ℚ) * 2 ^ (10 ^ k).log2 =
      10 ^ k * 2 ^ 52 := by
    exact_mod_cast whole
  show dyadic _ _ = _
  rw [dyadic, zpow_sub₀ (by norm_num), zpow_natCast, mul_div_assoc', parts]
  norm_num

theorem rounds_ofScientific (m : ℕ) (negative : Bool) (k : ℕ) :
    Rounds (Float.ofScientific m negative k) (m * 10 ^ (if negative then -(k : ℤ) else k)) := by
  unfold Float.ofScientific
  by_cases short : m < 2 ^ 53 ∧ k ≤ 22
  · rw [dif_pos short]
    have small : m.toUInt64.toNat = m := Nat.mod_eq_of_lt (short.1.trans (by norm_num))
    have size : |(m : ℤ)| ≤ 2 ^ 53 := by
      rw [Nat.abs_cast]
      exact_mod_cast short.1.le
    have fits : |((m : ℤ) : ℚ)| ≤ 2 ^ (1023 : ℤ) := by
      calc |((m : ℤ) : ℚ)| ≤ 2 ^ (53 : ℤ) := by exact_mod_cast size
        _ ≤ 2 ^ (1023 : ℤ) := zpow_le_zpow_right₀ (by norm_num) (by norm_num)
    have rounds : Rounds m.toUInt64.toFloat ((m : ℤ) : ℚ) := by
      have := rounds_toFloat m.toUInt64
      rwa [small] at this
    have same : value m.toUInt64.toFloat = m :=
      rounds.value_eq (onGrid_intCast size)
        (fits.trans (zpow_le_zpow_right₀ (by norm_num) (by norm_num)))
    obtain ⟨finite, power⟩ :=
      value_powersOfTen (k := k) (by simp [Float.exactlyRepresentablePowersOfTen]; omega)
    cases negative
    · have product := rounds_mul (rounds.isFinite fits) finite
      rw [same, power] at product
      exact product
    · have quotient := rounds_div (rounds.isFinite fits) finite (by rw [power]; positivity)
      rw [same, power, div_eq_mul_inv, ← zpow_natCast, ← zpow_neg] at quotient
      exact quotient
  · rw [dif_neg short]
    cases negative
    · exact (packsNearest_scientific m k).rounds rfl
    · have kept := packsNearest_scientific m (Int.negOfNat k)
      rw [Int.negOfNat_eq] at kept
      exact kept.rounds rfl

theorem rounds_tenth (n : ℕ) : Rounds (Float.ofScientific (10 * n) true 1) n := by
  have read := rounds_ofScientific (10 * n) true 1
  have whole : ((10 * n : ℕ) : ℚ) * 10 ^ (-((1 : ℕ) : ℤ)) = n := by
    rw [Nat.cast_one, zpow_neg_one]
    push_cast
    ring
  rwa [if_pos rfl, whole] at read

theorem rounds_ofNat (n : ℕ) : Rounds (Float.ofNat n) n := by
  have read := rounds_ofScientific n false 0
  rw [if_neg Bool.false_ne_true, Nat.cast_zero, zpow_zero, mul_one] at read
  exact read

theorem rounds_ofInt (n : ℤ) : Rounds (Float.ofInt n) n := by
  match n with
  | .ofNat n => exact rounds_ofNat n
  | .negSucc n =>
    have opposite := (rounds_ofNat n.succ).neg
    rw [Int.cast_negSucc]
    exact opposite

end Binary64

namespace Decimal

open Binary64

variable {n len : ℕ} {k : ℤ}

theorem ten_pow_le_of_digits (pos : 0 < n) : 10 ^ ((digits n).length - 1) ≤ n := by
  by_contra less
  have first : 0 < (digits n).length := Nat.length_toDigits_pos
  rcases Nat.eq_zero_or_pos ((digits n).length - 1) with one | more
  · rw [one] at less
    omega
  · have short := (Nat.length_toDigits_le_iff (by norm_num) more).mpr (not_le.mp less)
    have same : (Nat.toDigits 10 n).length = (digits n).length := rfl
    omega

theorem lt_ten_pow_digits (n : ℕ) : n < 10 ^ (digits n).length :=
  (Nat.length_toDigits_le_iff (by norm_num) Nat.length_toDigits_pos).mp le_rfl

theorem bound_le_of_many_digits (pos : 0 < n) (large : 400 < ((digits n).length : ℤ) + k) :
    bound ≤ (n : ℚ) * 10 ^ k := by
  have first : 0 < (digits n).length := Nat.length_toDigits_pos
  have low : (10 : ℚ) ^ (((digits n).length - 1 : ℕ) : ℤ) ≤ n := by
    rw [zpow_natCast]
    exact_mod_cast ten_pow_le_of_digits pos
  calc bound ≤ 10 ^ ((((digits n).length - 1 : ℕ) : ℤ) + k) := bound_le_ten_pow (by omega)
    _ = 10 ^ (((digits n).length - 1 : ℕ) : ℤ) * 10 ^ k := zpow_add₀ (by norm_num) _ _
    _ ≤ n * 10 ^ k := mul_le_mul_of_nonneg_right low (zpow_nonneg (by norm_num) _)

theorem tiny_of_few_digits (n : ℕ) (small : ((digits n).length : ℤ) + k < -400) :
    |(n : ℚ) * 10 ^ k| ≤ 2 ^ (-1075 : ℤ) := by
  have high : (n : ℚ) ≤ 10 ^ ((digits n).length : ℤ) := by
    rw [zpow_natCast]
    exact_mod_cast (lt_ten_pow_digits n).le
  rw [abs_of_nonneg (mul_nonneg (Nat.cast_nonneg _) (zpow_nonneg (by norm_num) _))]
  calc (n : ℚ) * 10 ^ k ≤ 10 ^ ((digits n).length : ℤ) * 10 ^ k :=
        mul_le_mul_of_nonneg_right high (zpow_nonneg (by norm_num) _)
    _ = 10 ^ (((digits n).length : ℤ) + k) := (zpow_add₀ (by norm_num) _ _).symm
    _ ≤ 2 ^ (-1075 : ℤ) := ten_pow_le_tiny small.le

theorem rounds_toFloat (n : ℕ) (k : ℤ) : Rounds (toFloat n k) (n * 10 ^ k) := by
  unfold toFloat
  by_cases zero : n = 0
  · have read := rounds_ofScientific 0 true 1
    rw [Nat.cast_zero, zero_mul] at read
    rw [if_pos zero, zero, Nat.cast_zero, zero_mul]
    exact read
  rw [if_neg zero]
  have pos : 0 < n := Nat.pos_of_ne_zero zero
  dsimp only
  by_cases large : 400 < ((digits n).length : ℤ) + k
  · have same : shape infinity = packed (.infinity .positive) := by decide
    rw [if_pos large]
    exact (packsNearest_infinity (bound_le_of_many_digits pos large)).rounds same
  rw [if_neg large]
  by_cases small : ((digits n).length : ℤ) + k < -400
  · have same : shape 0.0 = packed (.zero .positive) := by decide
    rw [if_pos small]
    exact (packsNearest_tiny (tiny_of_few_digits n small) _).rounds same
  rw [if_neg small]
  by_cases negative : k < 0
  · have read := rounds_ofScientific n true (-k).toNat
    have exponent : -((-k).toNat : ℤ) = k := by omega
    rw [if_pos rfl, exponent] at read
    rw [if_pos negative]
    exact read
  · have read := rounds_ofScientific n false k.toNat
    have exponent : (k.toNat : ℤ) = k := by omega
    rw [if_neg Bool.false_ne_true, exponent] at read
    rw [if_neg negative]
    exact read

/-! The text of numerals. -/

/-- An unsigned numeral: digits, and more of them behind a point if there is one. -/
structure Numeral where
  whole : List Char
  fraction : Option (List Char)
  digits : ∀ c ∈ whole ++ fraction.getD [], isDigit c = true
  filled : whole ++ fraction.getD [] ≠ []

def marks : List Char := ['.', '0', '1', '2', '3', '4', '5', '6', '7', '8', '9']

theorem mem_marks_of_isDigit {c : Char} (digit : isDigit c = true) : c ∈ marks := by
  have all : ∀ n < 58, 48 ≤ n → Char.ofNat n ∈ marks := by decide +kernel
  have range : '0' ≤ c ∧ c ≤ '9' := by simpa [isDigit] using digit
  have low : 48 ≤ c.toNat := range.1
  have high : c.toNat ≤ 57 := range.2
  rw [← Char.ofNat_toNat c]
  exact all _ (by omega) low

variable {c : Char} {cs : List Char}

theorem bare_of_mem_marks (h : c ∈ marks) : c ≠ '-' ∧ c ≠ '+' := by
  have all : marks.all (fun c => c != '-' && c != '+') = true := by decide +kernel
  simpa using List.all_eq_true.mp all c h

theorem toLower_of_mem_marks (h : c ∈ marks) : c.toLower ≠ 'i' ∧ c.toLower ≠ 'n' := by
  have all : marks.all (fun c => c.toLower != 'i' && c.toLower != 'n') = true := by decide +kernel
  simpa using List.all_eq_true.mp all c h

theorem isBlank_eq_false (h : c ∈ '-' :: marks) : Blank.isBlank c = false := by
  have all : ('-' :: marks).all (fun c => !Blank.isBlank c) = true := by decide +kernel
  simpa using List.all_eq_true.mp all c h

theorem mem_of_mem_minus {negative : Bool} (h : ∀ c ∈ cs, c ∈ marks) (hc : c ∈ minus negative cs) :
    c ∈ '-' :: marks := by
  cases negative
  · exact List.mem_cons_of_mem _ (h c hc)
  · rcases List.mem_cons.mp hc with rfl | hc
    · exact List.mem_cons_self ..
    · exact List.mem_cons_of_mem _ (h c hc)

def magnitude? (cs : List Char) : Option Float :=
  match String.ofList (cs.map Char.toLower) with
  | "inf" | "infinity" => some infinity
  | "nan" => some nan
  | _ => (numeral? cs).map fun (n, k) => toFloat n k

theorem read?_minus (cs : List Char) : read? ('-' :: cs) = (magnitude? cs).map (-·) := rfl

theorem read?_of_bare (minus : c ≠ '-') (plus : c ≠ '+') :
    read? (c :: cs) = magnitude? (c :: cs) := by
  unfold read?
  split
  · rename_i same
    split at same
    · rename_i first
      exact absurd (List.cons.inj first).1 minus
    · rename_i first
      exact absurd (List.cons.inj first).1 plus
    · obtain ⟨rfl, rfl⟩ := Prod.mk.inj same
      exact congrFun Option.map_id (magnitude? (c :: cs))

namespace Numeral

variable (t : Numeral)

def places : List Char := t.fraction.getD []

def mantissa : ℕ := ofDigits (t.whole ++ t.places)

def value : ℚ := t.mantissa / 10 ^ t.places.length

def text : List Char :=
  t.whole ++ match t.fraction with
    | some ds => '.' :: ds
    | none => []

def double : Float := toFloat t.mantissa (-(t.places.length : ℤ))

theorem value_nonneg : 0 ≤ t.value := div_nonneg (Nat.cast_nonneg _) (pow_nonneg (by norm_num) _)

theorem rounds_double : Rounds t.double t.value := by
  have read := rounds_toFloat t.mantissa (-(t.places.length : ℤ))
  rwa [zpow_neg, zpow_natCast, ← div_eq_mul_inv] at read

theorem value_double_nonneg : 0 ≤ Binary64.value t.double := by
  have onGrid := onGrid_intCast (n := 0) (by norm_num)
  rw [Int.cast_zero] at onGrid
  exact t.rounds_double.le_value onGrid bound_pos.le t.value_nonneg

variable {t}

theorem mem_marks (h : c ∈ t.text) : c ∈ marks := by
  have digit : c ∈ t.whole ++ t.places → c ∈ marks := fun h => mem_marks_of_isDigit (t.digits c h)
  rcases List.mem_append.mp h with h | h
  · exact digit (List.mem_append_left _ h)
  · cases point : t.fraction with
    | none =>
      rw [point] at h
      cases h
    | some ds =>
      rw [point] at h
      rcases List.mem_cons.mp h with rfl | h
      · decide
      · exact digit (List.mem_append_right _ (by rwa [places, point]))

theorem text_ne_nil : t.text ≠ [] := by
  intro empty
  obtain ⟨none, rest⟩ := List.append_eq_nil_iff.mp empty
  refine t.filled ?_
  cases point : t.fraction with
  | none => rw [none]; rfl
  | some ds =>
    rw [point] at rest
    cases rest

theorem numeral?_text : numeral? t.text = some (t.mantissa, -(t.places.length : ℤ)) := by
  have whole : ∀ c ∈ t.whole, isDigit c = true := fun c h => t.digits c (List.mem_append_left _ h)
  have filled := t.filled
  unfold numeral? text mantissa places
  cases point : t.fraction with
  | none =>
    rw [point] at filled
    have some : t.whole ≠ [] := by simpa using filled
    simp [List.takeWhile_eq_self_iff.mpr whole, List.dropWhile_eq_nil_iff.mpr whole, some]
  | some ds =>
    have fraction : ∀ c ∈ ds, isDigit c = true :=
      fun c h => t.digits c (List.mem_append_right _ (by rwa [point]))
    have stop : isDigit '.' = false := by decide
    rw [point] at filled
    have some : ¬ (t.whole = [] ∧ ds = []) := by simpa using filled
    simp [List.takeWhile_append_of_pos whole, List.dropWhile_append_of_pos whole, stop,
      List.takeWhile_eq_self_iff.mpr fraction, List.dropWhile_eq_nil_iff.mpr fraction, some]

theorem magnitude?_text : magnitude? t.text = some t.double := by
  obtain ⟨c, rest, text⟩ := List.exists_cons_of_ne_nil (text_ne_nil (t := t))
  have first : c ∈ marks := mem_marks (t := t) (by rw [text]; exact List.mem_cons_self ..)
  have other (word : Char) (more : List Char) (same : String.ofList ((c :: rest).map Char.toLower) =
      String.ofList (word :: more)) : c.toLower = word :=
    (List.cons.inj (String.ofList_injective same)).1
  unfold magnitude?
  rw [numeral?_text, text]
  split
  · rename_i same
    exact absurd (other 'i' ['n', 'f'] same) (toLower_of_mem_marks first).1
  · rename_i same
    exact absurd (other 'i' ['n', 'f', 'i', 'n', 'i', 't', 'y'] same) (toLower_of_mem_marks first).1
  · rename_i same
    exact absurd (other 'n' ['a', 'n'] same) (toLower_of_mem_marks first).2
  · rfl

theorem read?_text (negative : Bool) :
    read? (minus negative t.text) = some (if negative then -t.double else t.double) := by
  cases negative
  · obtain ⟨c, rest, text⟩ := List.exists_cons_of_ne_nil (text_ne_nil (t := t))
    have first : c ∈ marks := mem_marks (t := t) (by rw [text]; exact List.mem_cons_self ..)
    have read := magnitude?_text (t := t)
    rw [minus, if_neg Bool.false_ne_true]
    rw [text] at read ⊢
    rw [read?_of_bare (bare_of_mem_marks first).1 (bare_of_mem_marks first).2, read]
    rfl
  · rw [minus, if_pos rfl, read?_minus, magnitude?_text]
    rfl

end Numeral

end Decimal

namespace Blank

variable {cs : List Char}

theorem trimStart_of_not_blank (none : ∀ c ∈ cs, isBlank c = false) : trimStart cs = cs := by
  cases cs with
  | nil => rfl
  | cons c cs => exact List.dropWhile_cons_of_neg (by simp [none c (List.mem_cons_self ..)])

theorem trim_of_not_blank (none : ∀ c ∈ cs, isBlank c = false) : trim cs = cs := by
  have back := trimStart_of_not_blank fun c h => none c (List.mem_reverse.mp h)
  rw [trim, trimStart_of_not_blank none, trimEnd, ← trimStart, back, List.reverse_reverse]

end Blank

end EdgeCache
