import EdgeCache.Text.Utf8
import Mathlib.Tactic.Common

/-! The bytes of texts. A text comes back from its bytes. -/

namespace EdgeCache.Utf8

section Encoding

theorem encode_append (s t : List Char) : encode (s ++ t) = encode s ++ encode t :=
  List.flatMap_append

theorem encode_cons (c : Char) (s : List Char) :
    encode (c :: s) = String.utf8EncodeChar c ++ encode s := rfl

theorem utf8EncodeChar_ascii {c : Char} (h : c.toNat < 128) :
    String.utf8EncodeChar c = [UInt8.ofNat c.toNat] :=
  if_pos (Nat.le_of_lt_succ h)

theorem utf8EncodeChar_byte {b : UInt8} (h : b.toNat < 128) :
    String.utf8EncodeChar (Char.ofNat b.toNat) = [b] := by
  have code : ∀ n < 128, (Char.ofNat n).toNat = n := by decide
  rw [utf8EncodeChar_ascii (by rwa [code _ h]), code _ h, UInt8.ofNat_toNat]

end Encoding

section Steps

variable {a b c d : UInt8} {rest : List UInt8}

theorem within_eq_true {lo hi : Nat} : within lo hi b = true ↔ lo ≤ b.toNat ∧ b.toNat ≤ hi := by
  simp only [within, Bool.and_eq_true, decide_eq_true_eq]

theorem decode_one (ha : a.toNat < 0x80) :
    decode (a :: rest) = Char.ofNat a.toNat :: decode rest := by
  rw [decode.eq_def]
  exact if_pos ha

theorem decode_two (ha : within 0xC2 0xDF a = true) (hb : isContinuation b = true) :
    decode (a :: b :: rest) = Char.ofNat (a.toNat % 32 * 64 + payload b) :: decode rest := by
  have range := within_eq_true.mp ha
  rw [decode.eq_def]
  dsimp only
  rw [if_neg (by omega), if_pos ha]
  simp only [hb, if_true]

theorem decode_three (ha : within 0xE0 0xEF a = true) (hb : secondOfThree a b = true)
    (hc : isContinuation c = true) :
    decode (a :: b :: c :: rest) =
      Char.ofNat (a.toNat % 16 * 4096 + payload b * 64 + payload c) :: decode rest := by
  have range := within_eq_true.mp ha
  have beyond : ¬ within 0xC2 0xDF a = true := fun h => by have := within_eq_true.mp h; omega
  rw [decode.eq_def]
  dsimp only
  rw [if_neg (by omega), if_neg beyond, if_pos ha]
  simp only [hb, hc, if_true]

theorem decode_four (ha : within 0xF0 0xF4 a = true) (hb : secondOfFour a b = true)
    (hc : isContinuation c = true) (hd : isContinuation d = true) :
    decode (a :: b :: c :: d :: rest) =
      Char.ofNat (a.toNat % 8 * 262144 + payload b * 4096 + payload c * 64 + payload d) ::
        decode rest := by
  have range := within_eq_true.mp ha
  have beyond : ¬ within 0xC2 0xDF a = true := fun h => by have := within_eq_true.mp h; omega
  have beyond' : ¬ within 0xE0 0xEF a = true := fun h => by have := within_eq_true.mp h; omega
  rw [decode.eq_def]
  dsimp only
  rw [if_neg (by omega), if_neg beyond, if_neg beyond', if_pos ha]
  simp only [hb, hc, hd, if_true]

end Steps

section Characters

variable {n m : Nat}

theorem within_byte {lo hi : Nat} (lower : lo ≤ n) (upper : n ≤ hi) (h : n < 256) :
    within lo hi (UInt8.ofNat n) = true := by
  rw [within_eq_true, UInt8.toNat_ofNat_of_lt' h]
  exact ⟨lower, upper⟩

theorem isContinuation_low (n : Nat) : isContinuation (UInt8.ofNat (n % 64 + 128)) = true :=
  within_byte (by omega) (by omega) (by omega)

theorem payload_low (n : Nat) : payload (UInt8.ofNat (n % 64 + 128)) = n % 64 := by
  unfold payload
  rw [UInt8.toNat_ofNat']
  omega

theorem secondOfThree_high (lower : 0x800 ≤ n) (upper : n < 0x10000)
    (scalar : n < 0xD800 ∨ 0xDFFF < n) :
    secondOfThree (UInt8.ofNat (n / 4096 % 16 + 224)) (UInt8.ofNat (n / 64 % 64 + 128)) = true := by
  unfold secondOfThree
  rw [UInt8.toNat_ofNat']
  split
  · exact within_byte (by omega) (by omega) (by omega)
  · split
    · exact within_byte (by omega) (by omega) (by omega)
    · exact isContinuation_low _

theorem secondOfFour_high (lower : 0x10000 ≤ n) (upper : n < 0x110000) :
    secondOfFour (UInt8.ofNat (n / 262144 % 8 + 240)) (UInt8.ofNat (n / 4096 % 64 + 128)) =
      true := by
  unfold secondOfFour
  rw [UInt8.toNat_ofNat']
  split
  · exact within_byte (by omega) (by omega) (by omega)
  · split
    · exact within_byte (by omega) (by omega) (by omega)
    · exact isContinuation_low _

theorem decode_utf8EncodeChar (c : Char) (rest : List UInt8) :
    decode (String.utf8EncodeChar c ++ rest) = c :: decode rest := by
  have valid : c.val.toNat < 0xD800 ∨ 0xDFFF < c.val.toNat ∧ c.val.toNat < 0x110000 := c.valid
  have whole {n : Nat} (same : n = c.val.toNat) : Char.ofNat n = c := same ▸ c.ofNat_toNat
  unfold String.utf8EncodeChar
  dsimp only
  generalize c.val.toNat = n at *
  split
  · rw [List.singleton_append, decode_one (by rw [UInt8.toNat_ofNat']; omega),
      whole (by rw [UInt8.toNat_ofNat']; omega)]
  · split
    · simp only [List.cons_append, List.nil_append]
      rw [decode_two (within_byte (by omega) (by omega) (by omega)) (isContinuation_low _),
        payload_low, UInt8.toNat_ofNat', whole (by omega)]
    · split
      · simp only [List.cons_append, List.nil_append]
        rw [decode_three (within_byte (by omega) (by omega) (by omega))
          (secondOfThree_high (by omega) (by omega) (by omega)) (isContinuation_low _), payload_low,
          payload_low,
          UInt8.toNat_ofNat', whole (by omega)]
      · simp only [List.cons_append, List.nil_append]
        rw [decode_four (within_byte (by omega) (by omega) (by omega))
          (secondOfFour_high (by omega) (by omega))
          (isContinuation_low _) (isContinuation_low _), payload_low, payload_low, payload_low,
          UInt8.toNat_ofNat', whole (by omega)]

theorem decode_encode_append (s : List Char) (rest : List UInt8) :
    decode (encode s ++ rest) = s ++ decode rest := by
  induction s with
  | nil => rfl
  | cons c s ih =>
    rw [encode, List.flatMap_cons, List.append_assoc, decode_utf8EncodeChar]
    exact congrArg (c :: ·) ih

theorem decode_encode (s : List Char) : decode (encode s) = s := by
  have whole := decode_encode_append s []
  rwa [List.append_nil, show decode [] = [] from rfl, List.append_nil] at whole

theorem toString_ofString (s : String) : toString (ofString s) = s := by
  rw [toString, ofString, decode_encode, String.ofList_toList]

end Characters

end EdgeCache.Utf8
