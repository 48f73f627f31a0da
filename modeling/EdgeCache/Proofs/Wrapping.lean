import EdgeCache.Proofs.InPlace
import Mathlib.Algebra.Order.Ring.Int
import Mathlib.Data.Int.ModEq

/-! Assignments of whole numbers to a slot for whole numbers. Arithmetic is that of the integers,
cut to 64 bits in two's complement; counts of shifts and of turns are taken modulo 64. -/

namespace EdgeCache.Value

variable {op : AssignOp} {a b c n : Int64} {e : ValueError} {x : Int}

def Stores (op : AssignOp) (a b n : Int64) : Prop :=
  ∀ m k : Marks, assignInPlace op (.integer b k) (.integer a m) =
    .ok () (.integer n { m with notSet := false })

def Refuses (op : AssignOp) (a b : Int64) (e : ValueError) : Prop :=
  ∀ m k : Marks, assignInPlace op (.integer b k) (.integer a m) = .error e (.integer a m)

/-- The number that an operator of arithmetic gives before it is cut to 64 bits. -/
def unbounded? (op : AssignOp) (a b : Int) : Option Int :=
  match op with
  | .assign => some b
  | .addition => some (a + b)
  | .subtraction => some (a - b)
  | .multiplication => some (a * b)
  | .division => if b = 0 then none else some (a.tdiv b)
  | .remainder => if b = 0 then none else some (a.tmod b)
  | .leftShift => some (a * 2 ^ (b % 64).toNat)
  | .rightShift => some (a / 2 ^ (b % 64).toNat)
  | _ => none

def bitwise? : AssignOp → Option (Bool → Bool → Bool)
  | .bitwiseOr => some or
  | .bitwiseAnd => some and
  | .bitwiseXor => some xor
  | _ => none

def bit (a : Int64) (i : Int) : Bool := a.toBitVec.getLsbD (i % 64).toNat

section Slots

theorem assignInPlace_integer (op : AssignOp) (a b : Int64) (m k : Marks) :
    assignInPlace op (.integer b k) (.integer a m) =
      match assignInteger op a b with
      | .ok n => .ok () (.integer n { m with notSet := false })
      | .error e => .error e (.integer a m) := by
  rw [assignInPlace_eq]
  have assigned : (Value.integer a m).assign op (.integer b k) =
      (assignInteger op a b).map fun n => .integer n { m with notSet := false } := rfl
  rw [assigned]
  cases assignInteger op a b <;> rfl

theorem stores_iff : Stores op a b n ↔ assignInteger op a b = .ok n := by
  constructor
  · intro stores
    have stored := stores .plain .plain
    rw [assignInPlace_integer] at stored
    cases assigned : assignInteger op a b <;> rw [assigned] at stored <;> cases stored
    rfl
  · intro assigned m k
    rw [assignInPlace_integer, assigned]

theorem refuses_iff : Refuses op a b e ↔ assignInteger op a b = .error e := by
  constructor
  · intro refuses
    have refused := refuses .plain .plain
    rw [assignInPlace_integer] at refused
    cases assigned : assignInteger op a b <;> rw [assigned] at refused <;> cases refused
    rfl
  · intro assigned m k
    rw [assignInPlace_integer, assigned]

theorem stores_or_refuses (op : AssignOp) (a b : Int64) :
    (∃ n, Stores op a b n) ∨ ∃ e, Refuses op a b e := by
  simp only [stores_iff, refuses_iff]
  cases assignInteger op a b with
  | ok n => exact .inl ⟨n, rfl⟩
  | error e => exact .inr ⟨e, rfl⟩

theorem refuses_cases : Refuses op a b e ↔
    (op = .division ∨ op = .remainder) ∧ b = 0 ∧ e = .divisionByZero ∨
      (op = .logicalAnd ∨ op = .logicalOr) ∧ e = .unsupportedOperator op.sign .integer := by
  rw [refuses_iff]
  cases op with
  | division | remainder => by_cases zero : b = 0 <;> simp [assignInteger, zero, eq_comm]
  | _ => simp [assignInteger, eq_comm]

end Slots

section Arithmetic

theorem divide_eq (a b : Int64) : a / b = .ofInt (a.toInt.tdiv b.toInt) := by
  refine Int64.toInt_inj.mp ?_
  rw [Int64.toInt_div, Int64.toInt_ofInt]

theorem remainder_eq (a b : Int64) : a % b = .ofInt (a.toInt.tmod b.toInt) := by
  rw [← Int64.toInt_mod, Int64.ofInt_toInt]

theorem toNat_smod (b : Int64) : (b.toBitVec.smod 64).toNat = (b.toInt % 64).toNat := by
  have signed : (b.toBitVec.smod 64).toInt = b.toInt % 64 := by
    rw [BitVec.toInt_smod]
    exact Int.fmod_eq_emod_of_nonneg _ (by decide)
  have small : 2 * (b.toBitVec.smod 64).toNat < 2 ^ 64 := by
    have := BitVec.toInt_eq_toNat_cond (b.toBitVec.smod 64)
    split at this <;> omega
  rw [← signed, BitVec.toInt_eq_toNat_of_lt small, Int.toNat_natCast]

theorem shiftLeft_eq (a b : Int64) : a <<< b = .ofInt (a.toInt * 2 ^ (b.toInt % 64).toNat) := by
  refine Int64.toInt_inj.mp ?_
  show (a.toBitVec <<< (b.toBitVec.smod 64)).toInt = _
  -- the bits of `a` without their sign differ from it by a multiple of 2 ^ 64
  have signed : a.toInt = (a.toBitVec.toNat : Int).bmod (2 ^ 64) := BitVec.toInt_eq_toNat_bmod _
  rw [Int64.toInt_ofInt, BitVec.shiftLeft_eq', toNat_smod, BitVec.toInt_shiftLeft,
    Nat.shiftLeft_eq, signed]
  push_cast
  exact Int.bmod_mul_bmod.symm

theorem toInt_shiftRight (a b : Int64) : (a >>> b).toInt = a.toInt / 2 ^ (b.toInt % 64).toNat := by
  show (a.toBitVec.sshiftRight' (b.toBitVec.smod 64)).toInt = _
  rw [BitVec.sshiftRight_eq', toNat_smod, BitVec.toInt_sshiftRight, Int.shiftRight_eq_div_pow]
  norm_cast

theorem shiftRight_eq (a b : Int64) : a >>> b = .ofInt (a.toInt / 2 ^ (b.toInt % 64).toNat) := by
  rw [← toInt_shiftRight, Int64.ofInt_toInt]

theorem toInt_eq_zero : b.toInt = 0 ↔ b = 0 := by
  rw [← Int64.toInt_inj]
  rfl

theorem stores_unbounded (given : unbounded? op a.toInt b.toInt = some x) :
    Stores op a b (.ofInt x) := by
  rw [stores_iff]
  have divided {y : Int} (h : (if b.toInt = 0 then none else some y) = some x) : b ≠ 0 ∧ y = x := by
    split at h
    · cases h
    · exact ⟨fun zero => absurd (toInt_eq_zero.mpr zero) ‹_›, Option.some.inj h⟩
  cases op with
  | assign | addition | subtraction | multiplication =>
    cases given
    simp only [assignInteger, Int64.ofInt_add, Int64.ofInt_sub, Int64.ofInt_mul, Int64.ofInt_toInt]
  | division =>
    obtain ⟨filled, rfl⟩ := divided given
    rw [assignInteger, if_neg filled, divide_eq]
  | remainder =>
    obtain ⟨filled, rfl⟩ := divided given
    rw [assignInteger, if_neg filled, remainder_eq]
  | leftShift =>
    cases given
    rw [assignInteger, shiftLeft_eq]
  | rightShift =>
    cases given
    rw [assignInteger, shiftRight_eq]
  | _ => cases given

theorem divide_remainder (a b : Int64) : a / b * b + a % b = a := by
  rw [divide_eq, remainder_eq]
  calc Int64.ofInt (a.toInt.tdiv b.toInt) * b + .ofInt (a.toInt.tmod b.toInt)
      = .ofInt (a.toInt.tdiv b.toInt) * .ofInt b.toInt + .ofInt (a.toInt.tmod b.toInt) := by
        rw [Int64.ofInt_toInt]
    _ = .ofInt (a.toInt.tdiv b.toInt * b.toInt + a.toInt.tmod b.toInt) := by
      rw [Int64.ofInt_add, Int64.ofInt_mul]
    _ = a := by rw [Int.tdiv_mul_add_tmod, Int64.ofInt_toInt]

theorem modEq_of_eq (same : a * b + c = n) :
    a.toInt * b.toInt + c.toInt ≡ n.toInt [ZMOD 2 ^ 64] := by
  rw [← same, Int64.toInt_add, Int64.toInt_mul]
  exact (Int.ModEq.add_right _ Int.bmod_emod).symm.trans Int.bmod_emod.symm

theorem shiftRight_neg_iff (a b : Int64) : a >>> b < 0 ↔ a < 0 := by
  rw [Int64.lt_iff_toInt_lt, Int64.lt_iff_toInt_lt, toInt_shiftRight]
  have positive : (0 : Int) < 2 ^ (b.toInt % 64).toNat := Int.pow_pos (by decide)
  refine ⟨fun below => ?_, fun below => Int.ediv_neg_of_neg_of_pos below positive⟩
  by_contra above
  exact absurd below (Int.not_lt.mpr (Int.ediv_nonneg (Int.not_lt.mp above) positive.le))

end Arithmetic

section Turns

theorem bit_congr {i j : Int} (same : i % 64 = j % 64) : bit a i = bit a j := by
  rw [bit, bit, same]

theorem bit_ext (same : ∀ i, bit a i = bit b i) : a = b := by
  refine Int64.toBitVec_inj.mp (BitVec.eq_of_getLsbD_eq fun i small => ?_)
  have place : ((i : Int) % 64).toNat = i := by omega
  have h := same i
  rwa [bit, bit, place] at h

theorem place_lt (i : Int) : (i % 64).toNat < 64 := by omega

theorem bit_rotateLeft (a b : Int64) (i : Int) : bit (rotateLeft a b) i = bit a (i - b.toInt) := by
  show (a.toBitVec.rotateLeft (b.toInt % 64).toNat).getLsbD (i % 64).toNat = _
  rw [BitVec.getLsbD_rotateLeft, Nat.mod_eq_of_lt (place_lt _), decide_eq_true (place_lt i),
    Bool.true_and, Bool.cond_decide, bit]
  -- the bits that leave at the top come in at the bottom
  split
  · exact congrArg a.toBitVec.getLsbD (by omega)
  · exact congrArg a.toBitVec.getLsbD (by omega)

theorem bit_rotateRight (a b : Int64) (i : Int) :
    bit (rotateRight a b) i = bit a (i + b.toInt) := by
  show (a.toBitVec.rotateRight (b.toInt % 64).toNat).getLsbD (i % 64).toNat = _
  rw [BitVec.getLsbD_rotateRight, Nat.mod_eq_of_lt (place_lt _), decide_eq_true (place_lt i),
    Bool.true_and, Bool.cond_decide, bit]
  split
  · exact congrArg a.toBitVec.getLsbD (by omega)
  · exact congrArg a.toBitVec.getLsbD (by omega)

theorem rotateRight_rotateLeft (a b : Int64) : rotateRight (rotateLeft a b) b = a :=
  bit_ext fun i => by rw [bit_rotateRight, bit_rotateLeft, Int.add_sub_cancel]

theorem rotateLeft_rotateLeft (a b c : Int64) :
    rotateLeft (rotateLeft a b) c = rotateLeft a (b + c) := by
  refine bit_ext fun i => ?_
  rw [bit_rotateLeft, bit_rotateLeft, bit_rotateLeft]
  -- 64 divides the number at which the sum wraps around
  have wraps : (b + c).toInt % 2 ^ 64 = (b.toInt + c.toInt) % 2 ^ 64 := by
    rw [Int64.toInt_add]
    exact Int.bmod_emod
  exact bit_congr (by omega)

theorem stores_bitwise {f : Bool → Bool → Bool} (given : bitwise? op = some f) :
    ∃ n, Stores op a b n ∧ ∀ i, bit n i = f (bit a i) (bit b i) := by
  cases op with
  | bitwiseOr =>
    cases given
    exact ⟨a ||| b, stores_iff.mpr rfl, fun i => BitVec.getLsbD_or⟩
  | bitwiseAnd =>
    cases given
    exact ⟨a &&& b, stores_iff.mpr rfl, fun i => BitVec.getLsbD_and⟩
  | bitwiseXor =>
    cases given
    exact ⟨a ^^^ b, stores_iff.mpr rfl, fun i => BitVec.getLsbD_xor⟩
  | _ => cases given

end Turns

/-- Every assignment of a whole number stores another one, but for a division by zero and the
operators that are none for whole numbers, which fail and leave the slot. What arithmetic stores is
the number that it gives, cut to 64 bits, so that quotient and remainder make up the number again
modulo 2 ^ 64. Operators on bits go place by place. A turn to the right undoes one to the left, and
two turns are one by the sum of their counts; shifts depend on the count modulo 64, and those to the
right keep the sign. -/
theorem whole_assignments (a b : Int64) :
    (∀ op, (∃ n, Stores op a b n) ∨ ∃ e, Refuses op a b e) ∧
    (∀ op e, Refuses op a b e ↔
      (op = .division ∨ op = .remainder) ∧ b = 0 ∧ e = .divisionByZero ∨
        (op = .logicalAnd ∨ op = .logicalOr) ∧ e = .unsupportedOperator op.sign .integer) ∧
    (∀ op x, unbounded? op a.toInt b.toInt = some x → Stores op a b (.ofInt x)) ∧
    (b ≠ 0 → ∃ q r, Stores .division a b q ∧ Stores .remainder a b r ∧ q * b + r = a ∧
      q.toInt * b.toInt + r.toInt ≡ a.toInt [ZMOD 2 ^ 64]) ∧
    (∀ op f, bitwise? op = some f → ∃ n, Stores op a b n ∧ ∀ i, bit n i = f (bit a i) (bit b i)) ∧
    (∃ n, Stores .leftRotate a b n ∧ (∀ i, bit n i = bit a (i - b.toInt)) ∧
      Stores .rightRotate n b a ∧
      ∀ c, ∃ n', Stores .leftRotate n c n' ∧ Stores .leftRotate a (b + c) n') ∧
    (∃ n, Stores .rightRotate a b n ∧ ∀ i, bit n i = bit a (i + b.toInt)) ∧
    (∀ c n, b.toInt % 64 = c.toInt % 64 →
      (Stores .leftShift a b n ↔ Stores .leftShift a c n) ∧ (Stores .rightShift a b n ↔
        Stores .rightShift a c n)) ∧
    ∃ n, Stores .rightShift a b n ∧ (n < 0 ↔ a < 0) := by
  refine ⟨fun op => stores_or_refuses op a b, fun op e => refuses_cases,
    fun op x => stores_unbounded, fun filled => ?_, fun op f => stores_bitwise, ?_, ?_,
      fun c n same => ?_, ?_⟩
  · have made := divide_remainder a b
    exact ⟨a / b, a % b, stores_iff.mpr (if_neg filled), stores_iff.mpr (if_neg filled), made,
      modEq_of_eq made⟩
  · refine ⟨rotateLeft a b, stores_iff.mpr rfl, bit_rotateLeft a b, stores_iff.mpr ?_, fun c => ?_⟩
    · exact congrArg Except.ok (rotateRight_rotateLeft a b)
    · refine ⟨rotateLeft a (b + c), stores_iff.mpr ?_, stores_iff.mpr rfl⟩
      exact congrArg Except.ok (rotateLeft_rotateLeft a b c)
  · exact ⟨rotateRight a b, stores_iff.mpr rfl, bit_rotateRight a b⟩
  · simp only [stores_iff, assignInteger, shiftLeft_eq, shiftRight_eq, same, and_self]
  · exact ⟨a >>> b, stores_iff.mpr rfl, shiftRight_neg_iff a b⟩

theorem whole_assignments_least :
    (-1 : Int64) ≠ 0 ∧
      (∃ q r, Stores .division Int64.minValue (-1) q ∧ Stores .remainder Int64.minValue (-1) r ∧
        q * -1 + r = Int64.minValue) ∧
      Stores .division Int64.minValue (-1) Int64.minValue ∧
        Stores .leftShift Int64.minValue (-1) 0 ∧
      Stores .rightShift Int64.minValue (-1) (-1) ∧
      (Stores .rightShift Int64.minValue (-1) (-1) ↔
        Stores .rightShift Int64.minValue 63 (-1)) := by
  have filled : (-1 : Int64) ≠ 0 := by decide
  obtain ⟨-, -, stored, made, -, -, -, shifts, -⟩ := whole_assignments Int64.minValue (-1)
  obtain ⟨q, r, quotient, remainder, same, -⟩ := made filled
  have holds {op : AssignOp} {n : Int64} (x : Int)
      (given : unbounded? op Int64.minValue.toInt (-1) = some x)
      (cut : Int64.ofInt x = n) : Stores op Int64.minValue (-1) n := cut ▸ stored op x given
  exact ⟨filled, ⟨q, r, quotient, remainder, same⟩, holds (2 ^ 63) (by decide) (by decide),
    holds (-2 ^ 126) (by decide) (by decide), holds (-1) (by decide) (by decide),
    (shifts 63 (-1) (by decide)).2⟩

end EdgeCache.Value
