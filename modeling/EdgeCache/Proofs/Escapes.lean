import EdgeCache.Proofs.Answers
import EdgeCache.Proofs.Utf8
import Mathlib.Data.List.Basic

/-! Texts that were escaped come back, and decoding leaves all that is no escape as it is. -/

namespace EdgeCache

namespace Utf8

theorem le_of_mem_utf8EncodeChar {c : Char} {b : UInt8} (h : 128 ≤ c.toNat)
    (hb : b ∈ String.utf8EncodeChar c) :
    128 ≤ b.toNat := by
  unfold String.utf8EncodeChar at hb
  dsimp only at hb
  change 128 ≤ c.val.toNat at h
  generalize c.val.toNat = n at *
  have high {k : Nat} (lower : 128 ≤ k) (upper : k < 256) (same : b = UInt8.ofNat k) :
      128 ≤ b.toNat := by
    rw [same, UInt8.toNat_ofNat_of_lt' upper]
    exact lower
  rw [if_neg (by omega)] at hb
  split at hb
  · simp only [List.mem_cons, List.not_mem_nil, or_false] at hb
    rcases hb with same | same <;> exact high (by omega) (by omega) same
  · split at hb
    · simp only [List.mem_cons, List.not_mem_nil, or_false] at hb
      rcases hb with same | same | same <;> exact high (by omega) (by omega) same
    · simp only [List.mem_cons, List.not_mem_nil, or_false] at hb
      rcases hb with same | same | same | same <;> exact high (by omega) (by omega) same

end Utf8

namespace Hex

theorem value?_digitOf {n : Nat} (h : n < 16) :
    (digitOf true n).toNat < 128 ∧ value? (UInt8.ofNat (digitOf true n).toNat) = some n := by
  revert n
  decide

theorem ne_percent_of_value? {b : UInt8} {n : Nat} (h : value? b = some n) : b.toNat ≠ 37 := by
  intro percent
  unfold value? at h
  rw [percent] at h
  cases h

end Hex

namespace Percent

section Bytes

variable {b h l : UInt8} {hi lo : Nat} {rest : List UInt8}

theorem decodeBytes_of_ne (hb : b.toNat ≠ 37) :
    decodeBytes (b :: rest) = b :: decodeBytes rest := by
  rw [decodeBytes.eq_def]
  exact if_neg hb

theorem decodeBytes_of_digits (hb : b.toNat = 37) (hh : Hex.value? h = some hi)
    (hl : Hex.value? l = some lo) :
    decodeBytes (b :: h :: l :: rest) = UInt8.ofNat (hi * 16 + lo) :: decodeBytes rest := by
  rw [decodeBytes.eq_def]
  simp only [hb, if_true, hh, hl]

theorem encode_escape (b : UInt8) : Utf8.encode (escape b) =
    [37, UInt8.ofNat (Hex.digitOf true (b.toNat / 16)).toNat,
      UInt8.ofNat (Hex.digitOf true (b.toNat % 16)).toNat] := by
  have hb := b.toNat_lt
  simp only [escape, Hex.pair, Utf8.encode_cons,
    Utf8.utf8EncodeChar_ascii (Hex.value?_digitOf (n := b.toNat / 16) (by omega)).1,
    Utf8.utf8EncodeChar_ascii (Hex.value?_digitOf (n := b.toNat % 16) (by omega)).1]
  rfl

theorem decodeBytes_escape (b : UInt8) (rest : List UInt8) :
    decodeBytes (Utf8.encode (escape b) ++ rest) = b :: decodeBytes rest := by
  have hb := b.toNat_lt
  have first := (Hex.value?_digitOf (n := b.toNat / 16) (by omega)).2
  have second := (Hex.value?_digitOf (n := b.toNat % 16) (by omega)).2
  rw [encode_escape, List.cons_append, List.cons_append, List.cons_append, List.nil_append,
    decodeBytes_of_digits rfl first second, Nat.mul_comm, Nat.div_add_mod, UInt8.ofNat_toNat]

theorem encode_character (hb : b.toNat < 128) : Utf8.encode [Char.ofNat b.toNat] = [b] := by
  rw [Utf8.encode_cons, Utf8.utf8EncodeChar_byte hb]
  rfl

theorem decodeBytes_character (hb : b.toNat < 128) (ne : b.toNat ≠ 37) (rest : List UInt8) :
    decodeBytes (Utf8.encode [Char.ofNat b.toNat] ++ rest) = b :: decodeBytes rest := by
  rw [encode_character hb, List.singleton_append, decodeBytes_of_ne ne]

theorem ascii_of_isUnreserved (hb : isUnreserved b = true) : b.toNat < 128 ∧ b.toNat ≠ 37 := by
  simp only [isUnreserved, isAlphanumeric, Bool.or_eq_true, Bool.and_eq_true, decide_eq_true_eq,
    beq_iff_eq] at hb
  omega

theorem decodeBytes_encodeByte (b : UInt8) (rest : List UInt8) :
    decodeBytes (Utf8.encode (encodeByte b) ++ rest) = b :: decodeBytes rest := by
  unfold encodeByte
  split
  · rename_i unreserved
    obtain ⟨ascii, plain⟩ := ascii_of_isUnreserved unreserved
    exact decodeBytes_character ascii plain rest
  · exact decodeBytes_escape b rest

theorem decodeBytes_flatMap {f : UInt8 → List Char} {g : UInt8 → UInt8}
    (each : ∀ b rest, decodeBytes (Utf8.encode (f b) ++ rest) = g b :: decodeBytes rest)
    (bs : List UInt8) :
    decodeBytes (Utf8.encode (bs.flatMap f)) = bs.map g := by
  induction bs with
  | nil => rfl
  | cons b bs ih => rw [List.flatMap_cons, Utf8.encode_append, each, ih, List.map_cons]

theorem decode_encode (s : List Char) : decode (encode s) = s := by
  unfold decode encode
  rw [decodeBytes_flatMap decodeBytes_encodeByte, List.map_id', Utf8.decode_encode]

end Bytes

section Forms

def plusForBlank (c : Char) : Char := if c = ' ' then '+' else c

def plusForBlankByte (b : UInt8) : UInt8 := if b.toNat = 32 then 43 else b

theorem ascii_of_isFormSafe {b : UInt8} (hb : isFormSafe b = true) :
    b.toNat < 128 ∧ b.toNat ≠ 37 := by
  simp only [isFormSafe, isAlphanumeric, Bool.or_eq_true, Bool.and_eq_true, decide_eq_true_eq,
    beq_iff_eq] at hb
  omega

theorem decodeBytes_formByte (b : UInt8) (rest : List UInt8) :
    decodeBytes (Utf8.encode (formByte b) ++ rest) = plusForBlankByte b :: decodeBytes rest := by
  unfold formByte plusForBlankByte
  split
  · exact decodeBytes_of_ne (by decide)
  · split
    · rename_i safe
      obtain ⟨ascii, plain⟩ := ascii_of_isFormSafe safe
      exact decodeBytes_character ascii plain rest
    · exact decodeBytes_escape b rest

theorem map_plusForBlankByte (c : Char) :
    (String.utf8EncodeChar c).map plusForBlankByte = String.utf8EncodeChar (plusForBlank c) := by
  by_cases ascii : c.toNat < 128
  · have all : ∀ n < 128, (String.utf8EncodeChar (Char.ofNat n)).map plusForBlankByte =
        String.utf8EncodeChar (plusForBlank (Char.ofNat n)) := by decide
    rw [← Char.ofNat_toNat c]
    exact all _ ascii
  · have beyond : 128 ≤ c.toNat := Nat.le_of_not_lt ascii
    have other : c ≠ ' ' := fun same => ascii (by rw [same]; decide)
    have kept : ∀ b ∈ String.utf8EncodeChar c, plusForBlankByte b = b := fun b hb =>
      if_neg fun blank => by have := Utf8.le_of_mem_utf8EncodeChar beyond hb; omega
    rw [plusForBlank, if_neg other, List.map_congr_left kept, List.map_id']

theorem decode_encodeForm (s : List Char) : decode (encodeForm s) = s.map plusForBlank := by
  have swapped : (Utf8.encode s).map plusForBlankByte = Utf8.encode (s.map plusForBlank) := by
    unfold Utf8.encode
    rw [List.map_flatMap, List.flatMap_map]
    exact List.flatMap_congr fun c _ => map_plusForBlankByte c
  unfold decode encodeForm
  rw [decodeBytes_flatMap decodeBytes_formByte, swapped, Utf8.decode_encode]

end Forms

section Places

def escape? : List UInt8 → Option UInt8
  | p :: h :: l :: _ =>
    if p.toNat = 37 then
      match Hex.value? h, Hex.value? l with
      | some hi, some lo => some (UInt8.ofNat (hi * 16 + lo))
      | _, _ => none
    else none
  | _ => none

/-- A percent sign with two hexadecimal digits behind it. -/
def EscapeAt (bs : List UInt8) (i : Nat) : Prop := (escape? (bs.drop i)).isSome = true

def DigitAt (bs : List UInt8) (i : Nat) : Prop := ∃ j < i, i ≤ j + 2 ∧ EscapeAt bs j

instance (bs : List UInt8) (i : Nat) : Decidable (EscapeAt bs i) :=
  inferInstanceAs (Decidable (_ = true))

instance (bs : List UInt8) (i : Nat) : Decidable (DigitAt bs i) :=
  inferInstanceAs (Decidable (∃ j < i, _ ∧ EscapeAt bs j))

/-- What is left of the byte at a place: an escape leaves its byte where it begins, and all else
itself. -/
def leftAt (bs : List UInt8) (i : Nat) : Option UInt8 :=
  if DigitAt bs i then none else escape? (bs.drop i) <|> bs[i]?

variable {b h l v : UInt8} {bs rest : List UInt8} {i : Nat}

theorem digitAt_succ :
    DigitAt (b :: rest) (i + 1) ↔ i ≤ 1 ∧ EscapeAt (b :: rest) 0 ∨ DigitAt rest i := by
  constructor
  · rintro ⟨_ | j, before, near, escaped⟩
    · exact .inl ⟨by omega, escaped⟩
    · exact .inr ⟨j, by omega, by omega, escaped⟩
  · rintro (⟨near, escaped⟩ | ⟨j, before, near, escaped⟩)
    · exact ⟨0, by omega, by omega, escaped⟩
    · exact ⟨j + 1, by omega, by omega, escaped⟩

theorem leftAt_succ (free : EscapeAt (b :: rest) 0 → 1 < i) :
    leftAt (b :: rest) (i + 1) = leftAt rest i := by
  have same : DigitAt (b :: rest) (i + 1) ↔ DigitAt rest i :=
    digitAt_succ.trans (or_iff_right fun ⟨near, escaped⟩ => Nat.not_lt.mpr near (free escaped))
  unfold leftAt
  rw [List.drop_succ_cons, List.getElem?_cons_succ]
  exact if_congr same rfl rfl

theorem filterMap_leftAt_cons (free : escape? (b :: rest) = none) :
    (List.range (b :: rest).length).filterMap (leftAt (b :: rest)) =
      b :: (List.range rest.length).filterMap (leftAt rest) := by
  have first : leftAt (b :: rest) 0 = some b := by
    unfold leftAt
    rw [if_neg fun ⟨_, before, _⟩ => Nat.not_lt_zero _ before, List.drop_zero, free]
    rfl
  have none : ¬ EscapeAt (b :: rest) 0 := by simp [EscapeAt, free]
  rw [List.length_cons, List.range_succ_eq_map, List.filterMap_cons_some first, List.filterMap_map]
  exact congrArg (b :: ·) (List.filterMap_congr fun i _ => leftAt_succ fun escaped =>
    absurd escaped none)

theorem escape?_eq_some :
    escape? bs = some v ↔ ∃ p h l rest hi lo, bs = p :: h :: l :: rest ∧ p.toNat = 37 ∧
    Hex.value? h = some hi ∧ Hex.value? l = some lo ∧ UInt8.ofNat (hi * 16 + lo) = v := by
  constructor
  · intro escaped
    unfold escape? at escaped
    split at escaped
    · split at escaped
      · split at escaped
        · exact ⟨_, _, _, _, _, _, rfl, ‹_›, ‹_›, ‹_›, Option.some.inj escaped⟩
        · cases escaped
      · cases escaped
    · cases escaped
  · rintro ⟨p, h, l, rest, hi, lo, rfl, percent, high, low, rfl⟩
    simp only [escape?, percent, if_true, high, low]

theorem not_escapeAt_of_ne (hb : b.toNat ≠ 37) : ¬ EscapeAt (b :: rest) 0 := by
  intro escaped
  obtain ⟨v, escaped⟩ := Option.isSome_iff_exists.mp escaped
  obtain ⟨_, _, _, _, _, _, same, percent, -⟩ := escape?_eq_some.mp escaped
  cases same
  exact hb percent

theorem filterMap_leftAt_escape (escaped : escape? (b :: h :: l :: rest) = some v) :
    (List.range (b :: h :: l :: rest).length).filterMap (leftAt (b :: h :: l :: rest)) =
      v :: (List.range rest.length).filterMap (leftAt rest) := by
  obtain ⟨_, _, _, _, _, _, same, -, high, low, -⟩ := escape?_eq_some.mp escaped
  cases same
  have begins : EscapeAt (b :: h :: l :: rest) 0 := Option.isSome_iff_exists.mpr ⟨v, escaped⟩
  have first : leftAt (b :: h :: l :: rest) 0 = some v := by
    unfold leftAt
    rw [if_neg fun ⟨_, before, _⟩ => Nat.not_lt_zero _ before, List.drop_zero, escaped]
    rfl
  have second : leftAt (b :: h :: l :: rest) 1 = none := if_pos ⟨0, by omega, by omega, begins⟩
  have third : leftAt (b :: h :: l :: rest) 2 = none := if_pos ⟨0, by omega, by omega, begins⟩
  have behind (i : Nat) : leftAt (b :: h :: l :: rest) (i + 3) = leftAt rest i := by
    rw [leftAt_succ fun _ => by omega,
      leftAt_succ fun escaped => absurd escaped
        (not_escapeAt_of_ne (Hex.ne_percent_of_value? high)),
      leftAt_succ fun escaped => absurd escaped (not_escapeAt_of_ne (Hex.ne_percent_of_value? low))]
  have places :
      List.range (rest.length + 3) = 0 :: 1 :: 2 :: (List.range rest.length).map (· + 3) := by
    simp [List.range_succ_eq_map]
  simp only [List.length_cons]
  rw [places, List.filterMap_cons_some first, List.filterMap_cons_none second,
    List.filterMap_cons_none third, List.filterMap_map]
  exact congrArg (v :: ·) (List.filterMap_congr fun i _ => behind i)

theorem decodeBytes_of_free (free : escape? (b :: rest) = none) :
    decodeBytes (b :: rest) = b :: decodeBytes rest := by
  rw [decodeBytes.eq_def]
  dsimp only
  split
  · rename_i percent
    split
    · split
      · rename_i high low
        rw [escape?_eq_some.mpr ⟨_, _, _, _, _, _, rfl, percent, high, low, rfl⟩] at free
        cases free
      · rfl
    · rfl
  · rfl

theorem decodeBytes_eq (bs : List UInt8) :
    decodeBytes bs = (List.range bs.length).filterMap (leftAt bs) := by
  induction hn : bs.length using Nat.strongRecOn generalizing bs with
  | ind n ih =>
    subst hn
    cases escaped : escape? bs with
    | some v =>
      obtain ⟨b, h, l, rest, hi, lo, rfl, percent, high, low, rfl⟩ := escape?_eq_some.mp escaped
      rw [filterMap_leftAt_escape escaped, decodeBytes_of_digits percent high low,
        ih rest.length (by simp only [List.length_cons]; omega) rest rfl]
    | none =>
      cases bs with
      | nil => rfl
      | cons b rest =>
        rw [filterMap_leftAt_cons escaped, decodeBytes_of_free escaped,
          ih rest.length (Nat.lt_succ_self _) rest rfl]

def freeBytes (bs : List UInt8) : List UInt8 :=
  (List.range bs.length).filterMap fun i => if EscapeAt bs i ∨ DigitAt bs i then none else bs[i]?

theorem leftAt_of_free (escape : ¬ EscapeAt bs i) (digit : ¬ DigitAt bs i) :
    leftAt bs i = bs[i]? := by
  have none : escape? (bs.drop i) = none := Option.not_isSome_iff_eq_none.mp escape
  rw [leftAt, if_neg digit, none]
  rfl

theorem freeBytes_sublist (bs : List UInt8) : (freeBytes bs).Sublist (decodeBytes bs) := by
  have kept : freeBytes bs =
      ((List.range bs.length).filter fun i => ¬ (EscapeAt bs i ∨ DigitAt bs i)).filterMap
        (leftAt bs) := by
    rw [List.filterMap_filter]
    refine List.filterMap_congr fun i _ => ?_
    by_cases part : EscapeAt bs i ∨ DigitAt bs i
    · simp [part]
    · obtain ⟨escape, digit⟩ := not_or.mp part
      simp [escape, digit, leftAt_of_free escape digit]
  rw [kept, decodeBytes_eq]
  exact List.Sublist.filterMap _ List.filter_sublist

theorem leftAt_of_percent (percent : bs[i]? = some 37) (late : bs.length ≤ i + 2) :
    leftAt bs i = some 37 := by
  rw [← percent]
  refine leftAt_of_free (fun escaped => ?_) fun ⟨j, before, near, escaped⟩ => ?_
  · obtain ⟨v, escaped⟩ := Option.isSome_iff_exists.mp escaped
    obtain ⟨_, _, _, _, _, _, same, -⟩ := escape?_eq_some.mp escaped
    have length := congrArg List.length same
    simp only [List.length_drop, List.length_cons] at length
    omega
  · obtain ⟨v, escaped⟩ := Option.isSome_iff_exists.mp escaped
    obtain ⟨p, h, l, rest, _, _, same, -, high, low, -⟩ := escape?_eq_some.mp escaped
    have there : (bs.drop j)[i - j]? = some 37 := by
      rw [List.getElem?_drop, Nat.add_sub_cancel' (by omega), percent]
    rw [same] at there
    rcases (by omega : i - j = 1 ∨ i - j = 2) with place | place <;> rw [place] at there
      <;> cases there
    · exact Hex.ne_percent_of_value? high rfl
    · exact Hex.ne_percent_of_value? low rfl

end Places

section Written

inductive Part : List Char → Prop
  | plain {c : Char} (safe : c.isAlphanum = true ∨ c ∈ ['-', '_', '.', '~']) : Part [c]
  | escape {h l : Char} (high : h.isDigit = true ∨ 'A' ≤ h ∧ h ≤ 'F')
    (low : l.isDigit = true ∨ 'A' ≤ l ∧ l ≤ 'F') :
    Part ['%', h, l]

theorem part_encodeByte (b : UInt8) : Part (encodeByte b) := by
  have safe : ∀ n < 128, isUnreserved (UInt8.ofNat n) = true →
      (Char.ofNat n).isAlphanum = true ∨ Char.ofNat n ∈ ['-', '_', '.', '~'] := by decide
  have digit : ∀ n < 16, (Hex.digitOf true n).isDigit = true ∨
      'A' ≤ Hex.digitOf true n ∧ Hex.digitOf true n ≤ 'F' := by
    decide
  have hb := b.toNat_lt
  unfold encodeByte
  split
  · rename_i unreserved
    exact .plain (safe _ (ascii_of_isUnreserved unreserved).1 (by rwa [UInt8.ofNat_toNat]))
  · exact .escape (digit _ (by omega)) (digit _ (by omega))

theorem parts_of_encode (s : List Char) :
    ∃ parts : List (List Char), encode s = parts.flatten ∧ ∀ p ∈ parts, Part p := by
  refine ⟨(Utf8.encode s).map encodeByte, List.flatMap_def, fun p hp => ?_⟩
  obtain ⟨b, -, rfl⟩ := List.mem_map.mp hp
  exact part_encodeByte b

end Written

end Percent

namespace Builtin

open Percent

theorem answers_urlencode (s : String) (m : Marks) :
    Answers "urlencode" [.string s m] (.ofChars (Percent.encode s.toList)) :=
  ⟨_, rfl, fun _ _ => rfl⟩

theorem answers_urldecode (s : String) (m : Marks) :
    Answers "urldecode" [.string s m] (.ofChars (Percent.decode s.toList)) :=
  ⟨_, rfl, fun _ _ => rfl⟩

/-- Decoding undoes coding, which writes unreserved characters and escapes in capital letters only.
Of any text, decoding gives the bytes that are left at each place, in their order: those that are
part of no escape are there as they were, also a percent sign so late that no escape can begin with
it. -/
theorem coding_undone (s t : String) (m n : Marks) :
    (∃ coded : String, Answers "urlencode" [.string s m] (.ofString coded) ∧
      Answers "urldecode" [.ofString coded] (.ofString s) ∧
      ∃ parts : List (List Char), coded.toList = parts.flatten ∧ ∀ p ∈ parts, Part p) ∧
    ∃ bytes, Answers "urldecode" [.string t n] (.ofString (Utf8.toString bytes)) ∧
      bytes = (List.range (Utf8.ofString t).length).filterMap (leftAt (Utf8.ofString t)) ∧
      (freeBytes (Utf8.ofString t)).Sublist bytes ∧
      ∀ i, (Utf8.ofString t)[i]? = some 37 → (Utf8.ofString t).length ≤ i + 2 →
        leftAt (Utf8.ofString t) i = some 37 := by
  constructor
  · refine ⟨_, answers_urlencode s m, ?_, ?_⟩
    · have decoded := answers_urldecode (String.ofList (encode s.toList)) .plain
      rwa [String.toList_ofList, decode_encode, Value.ofChars, String.ofList_toList] at decoded
    · rw [String.toList_ofList]
      exact parts_of_encode s.toList
  · exact ⟨_, answers_urldecode t n, decodeBytes_eq _, freeBytes_sublist _,
      fun i => leftAt_of_percent⟩

theorem coding_undone_late :
    (∃ coded : String, Answers "urlencode" [.ofString "50% ü"] (.ofString coded) ∧
      Answers "urldecode" [.ofString coded] (.ofString "50% ü")) ∧
    Answers "urldecode" [.ofString "%41%4%2"] (.ofString "A%4%2") ∧
      leftAt (Utf8.ofString "%41%4%2") 5 = some 37 := by
  obtain ⟨⟨coded, written, read, -⟩, bytes, decoded, left, -, late⟩ :=
    coding_undone "50% ü" "%41%4%2" .plain .plain
  have same : bytes = Utf8.ofString "A%4%2" := left.trans (by decide)
  have all : Utf8.toString bytes = "A%4%2" := by
    rw [same, Utf8.toString_ofString]
  exact ⟨⟨coded, written, read⟩, all ▸ decoded, late 5 (by decide) (by decide)⟩

end Builtin

end EdgeCache
