import EdgeCache.Proofs.Answers
import Mathlib.Data.Nat.Digits.Defs

/-! Whole numbers come back from their digits in every base. What is read from a text is the number
that its first digits stand for, kept within 64 bits. -/

namespace EdgeCache

namespace Integer

variable {base d : Nat} {c : Char} {cs ds rest : List Char}

section Digits

theorem value?_eq_some_of_le (upper : base ≤ 36) (h : value? base c = some d) :
    d < base ∧ value? 36 c = some d := by
  unfold value? at h ⊢
  dsimp only at h ⊢
  obtain ⟨found, small⟩ := Option.filter_eq_some_iff.mp h
  have small := of_decide_eq_true small
  exact ⟨small, Option.filter_eq_some_iff.mpr ⟨found, decide_eq_true (by omega)⟩⟩

theorem value?_digitOf (hd : d < base) (upper : base ≤ 36) : value? base (digitOf d) = some d := by
  have all : ∀ d < 36, value? 36 (digitOf d) = some d := by decide
  have found := all d (by omega)
  unfold value? at found ⊢
  dsimp only at found ⊢
  exact Option.filter_eq_some_iff.mpr ⟨(Option.filter_eq_some_iff.mp found).1, decide_eq_true hd⟩

theorem isDigit_digitOf (hd : d < base) (upper : base ≤ 36) : isDigit base (digitOf d) = true := by
  rw [isDigit, value?_digitOf hd upper]
  rfl

def digitValue (base : Nat) (c : Char) : Nat := (value? base c).getD 0

theorem le_of_char_le {a : Char} (h : a ≤ c) : a.toNat ≤ c.toNat := h

theorem ascii_of_isDigit (h : isDigit base c = true) : c.toNat < 128 := by
  obtain ⟨d, found⟩ := Option.isSome_iff_exists.mp h
  obtain ⟨found, -⟩ := Option.filter_eq_some_iff.mp found
  have below {a : Char} (h : c ≤ a) (ha : a.toNat < 128) : c.toNat < 128 :=
    Nat.lt_of_le_of_lt (le_of_char_le h) ha
  split at found
  · rename_i range
    exact below range.2 (by decide)
  · split at found
    · rename_i range
      exact below range.2 (by decide)
    · split at found
      · rename_i range
        exact below range.2 (by decide)
      · cases found

theorem not_isBlank_of_isDigit (upper : base ≤ 36) (h : isDigit base c = true) :
    Blank.isBlank c = false := by
  have all : ∀ n < 128, isDigit 36 (Char.ofNat n) = true →
      Blank.isBlank (Char.ofNat n) = false := by
    decide +kernel
  obtain ⟨d, found⟩ := Option.isSome_iff_exists.mp h
  have wide : isDigit 36 c = true :=
    Option.isSome_iff_exists.mpr ⟨d, (value?_eq_some_of_le upper found).2⟩
  have none := all c.toNat (ascii_of_isDigit h)
  rw [Char.ofNat_toNat] at none
  exact none wide

theorem ne_sign_of_isDigit (h : isDigit base c = true) : c ≠ '-' ∧ c ≠ '+' := by
  constructor <;> rintro rfl <;> cases h

theorem ofDigits_concat (cs : List Char) (c : Char) :
    ofDigits base (cs ++ [c]) = ofDigits base cs * base + digitValue base c := by
  simp only [ofDigits, digitValue, List.foldl_append, List.foldl_cons, List.foldl_nil]

theorem ofDigits_reverse (cs : List Char) :
    ofDigits base cs.reverse = Nat.ofDigits base (cs.map (digitValue base)) := by
  induction cs with
  | nil => rfl
  | cons c cs ih =>
    rw [List.reverse_cons, ofDigits_concat, ih, List.map_cons, Nat.ofDigits_cons, Nat.add_comm,
      Nat.mul_comm]

end Digits

section Writing

variable {n fuel : Nat}

theorem isDigit_of_mem_digitsUp (lower : 2 ≤ base) (upper : base ≤ 36)
    (h : c ∈ digitsUp base fuel n) :
    isDigit base c = true := by
  induction fuel generalizing n with
  | zero => cases h
  | succ fuel ih =>
    unfold digitsUp at h
    split at h
    · cases h
    · rcases List.mem_cons.mp h with rfl | h
      · exact isDigit_digitOf (Nat.mod_lt _ (by omega)) upper
      · exact ih h

theorem ofDigits_digitsUp (lower : 2 ≤ base) (upper : base ≤ 36) (enough : n < base ^ fuel) :
    Nat.ofDigits base ((digitsUp base fuel n).map (digitValue base)) = n := by
  induction fuel generalizing n with
  | zero =>
    have none : n = 0 := by simpa using enough
    rw [none]
    rfl
  | succ fuel ih =>
    unfold digitsUp
    split
    · rename_i none
      rw [none]
      rfl
    · have rest : n / base < base ^ fuel :=
        Nat.div_lt_of_lt_mul (by rwa [pow_succ, Nat.mul_comm] at enough)
      have first : digitValue base (digitOf (n % base)) = n % base := by
        rw [digitValue, value?_digitOf (Nat.mod_lt _ (by omega)) upper]
        rfl
      rw [List.map_cons, Nat.ofDigits_cons, ih rest, first, Nat.mod_add_div]

theorem lt_pow_digits (lower : 2 ≤ base) : n < base ^ (n.log2 + 1) :=
  Nat.lt_of_lt_of_le Nat.lt_log2_self (Nat.pow_le_pow_left lower _)

end Writing

section Reading

variable {sign text : List Char}

def signed (sign : List Char) (n : Nat) : Int := if sign = ['-'] then -n else n

/-- The nearest number of 64 bits. -/
def clamped (n : Int) : Int := max Word.least (min Word.greatest n)

theorem announced_of_plain (zero : base ≠ 0) (plain : base = 16 → startsHex cs = false) :
    announced base cs = (base, cs) := by
  unfold announced
  rw [if_neg zero, if_neg fun ⟨hex, starts⟩ => by rw [plain hex] at starts; cases starts]

theorem takeWhile_digits (digits : ∀ c ∈ ds, isDigit base c = true)
    (ends : ∀ c ∈ rest.head?, isDigit base c = false) :
    (ds ++ rest).takeWhile (isDigit base) = ds := by
  rw [List.takeWhile_append_of_pos digits]
  cases rest with
  | nil => simp
  | cons c rest => simp [ends c rfl]

def takeSign (cs : List Char) : Bool × List Char :=
  match cs with
  | '-' :: r => (true, r)
  | '+' :: r => (false, r)
  | r => (false, r)

theorem leading?_def (base : Nat) (text : List Char) : leading? base text =
    let (negative, cs) := takeSign (Blank.trimStart text)
    let (base, cs) := announced base cs
    let ds := cs.takeWhile (isDigit base)
    if ds.isEmpty then none
    else
      let n := ofDigits base ds
      let magnitude : Int := if n < Word.half then n else if negative then Word.least
        else Word.greatest
      some (wrap (if negative then -magnitude else magnitude)) := rfl

theorem takeSign_append (hs : sign ∈ [[], ['+'], ['-']])
    (bare : ∀ c ∈ cs.head?, c ≠ '-' ∧ c ≠ '+') :
    takeSign (sign ++ cs) = (decide (sign = ['-']), cs) := by
  simp only [List.mem_cons, List.not_mem_nil, or_false] at hs
  rcases hs with rfl | rfl | rfl
  · unfold takeSign
    split
    · rename_i same
      exact absurd rfl (bare '-' (congrArg List.head? same)).1
    · rename_i same
      exact absurd rfl (bare '+' (congrArg List.head? same)).2
    · rfl
  · rfl
  · rfl

theorem wrap_signed (sign : List Char) (n : Nat) :
    let negative := decide (sign = ['-'])
    let magnitude : Int := if n < Word.half then n else if negative then Word.least
      else Word.greatest
    wrap (if negative then -magnitude else magnitude) = Int64.ofInt (clamped (signed sign n)) := by
  have half : Word.half = 9223372036854775808 := rfl
  have least : Word.least = -9223372036854775808 := rfl
  have greatest : Word.greatest = 9223372036854775807 := rfl
  have around : Int64.ofInt 9223372036854775808 = Int64.ofInt (-9223372036854775808) := rfl
  simp only [wrap, clamped, signed, half, least, greatest, decide_eq_true_eq]
  by_cases small : n < 9223372036854775808
  · simp only [small, if_true]
    split <;> congr 1 <;> omega
  · simp only [small, if_false]
    split
    · -- the magnitude beyond the range is the one number that its negation brings back to itself
      refine around.trans (congrArg Int64.ofInt ?_)
      omega
    · congr 1
      omega

theorem leading?_eq (lower : 2 ≤ base) (upper : base ≤ 36) (hs : sign ∈ [[], ['+'], ['-']])
    (filled : ds ≠ []) (digits : ∀ c ∈ ds, isDigit base c = true)
    (ends : ∀ c ∈ rest.head?, isDigit base c = false)
    (plain : base = 16 → startsHex (ds ++ rest) = false) :
    leading? base (sign ++ (ds ++ rest)) =
      some (Int64.ofInt
        (clamped (signed sign (Nat.ofDigits base (ds.reverse.map (digitValue base)))))) := by
  obtain ⟨c, others, rfl⟩ := List.exists_cons_of_ne_nil filled
  have first : isDigit base c = true := digits c (List.mem_cons_self ..)
  have trimmed :
      Blank.trimStart (sign ++ (c :: others ++ rest)) = sign ++ (c :: others ++ rest) := by
    simp only [List.mem_cons, List.not_mem_nil, or_false] at hs
    rcases hs with rfl | rfl | rfl
    · exact List.dropWhile_cons_of_neg (by simp [not_isBlank_of_isDigit upper first])
    · rfl
    · rfl
  have bare : ∀ a ∈ (c :: others ++ rest).head?, a ≠ '-' ∧ a ≠ '+' := by
    rintro a ⟨⟩
    exact ne_sign_of_isDigit first
  rw [leading?_def, trimmed, takeSign_append hs bare]
  dsimp only
  rw [announced_of_plain (by omega) plain]
  dsimp only
  rw [takeWhile_digits digits ends, ← ofDigits_reverse, List.reverse_reverse]
  exact congrArg some (wrap_signed sign _)

theorem startsHex_of_digits (digits : ∀ c ∈ cs, isDigit 16 c = true) : startsHex cs = false := by
  unfold startsHex
  split
  · rename_i x others
    have digit : isDigit 16 x = true := digits x (by simp)
    rw [Bool.or_eq_false_iff, beq_eq_false_iff_ne, beq_eq_false_iff_ne]
    constructor <;> rintro rfl <;> cases digit
  · rfl

theorem write_eq (lower : 2 ≤ base) (upper : base ≤ 36) (n : Int) :
    ∃ sign ds, write base n = sign ++ ds ∧ sign ∈ [[], ['+'], ['-']] ∧ ds ≠ [] ∧
    (∀ c ∈ ds, isDigit base c = true) ∧
      signed sign (Nat.ofDigits base (ds.reverse.map (digitValue base))) = n := by
  by_cases zero : n = 0
  · have digit : isDigit base '0' = true := isDigit_digitOf (d := 0) (by omega) upper
    have value : digitValue base '0' = 0 := by
      rw [digitValue, show value? base '0' = some 0 from value?_digitOf (d := 0) (by omega) upper]
      rfl
    refine ⟨[], ['0'], if_pos zero, by simp, by simp, by simpa using digit, ?_⟩
    simp [value, zero, signed]
  · have some : digitsUp base (n.natAbs.log2 + 1) n.natAbs ≠ [] := by
      unfold digitsUp
      rw [if_neg (Int.natAbs_ne_zero.mpr zero)]
      exact List.cons_ne_nil _ _
    refine ⟨if n < 0 then ['-'] else [], (digitsUp base (n.natAbs.log2 + 1) n.natAbs).reverse, ?_,
      ?_, by simpa using some, fun c hc => ?_, ?_⟩
    · unfold write
      rw [if_neg zero]
      dsimp only
      split <;> rfl
    · split <;> simp
    · exact isDigit_of_mem_digitsUp lower upper (List.mem_reverse.mp hc)
    · rw [List.reverse_reverse, ofDigits_digitsUp lower upper (lt_pow_digits lower)]
      by_cases negative : n < 0
      · rw [if_pos negative, signed, if_pos rfl]
        omega
      · rw [if_neg negative, signed, if_neg (by decide)]
        omega

theorem clamped_toInt (v : Int64) : clamped v.toInt = v.toInt := by
  have least : Word.least = -9223372036854775808 := rfl
  have greatest : Word.greatest = 9223372036854775807 := rfl
  have := v.le_toInt
  have := v.toInt_lt
  unfold clamped
  omega

theorem leading?_write (lower : 2 ≤ base) (upper : base ≤ 36) (v : Int64) :
    leading? base (write base v.toInt) = some v := by
  obtain ⟨sign, ds, written, hs, filled, digits, value⟩ := write_eq lower upper v.toInt
  have plain : base = 16 → startsHex (ds ++ []) = false := by
    rintro rfl
    rw [List.append_nil]
    exact startsHex_of_digits digits
  have read :=
    leading?_eq lower upper hs filled digits (by simp : ∀ c ∈ ([] : List Char).head?, _) plain
  rw [List.append_nil] at read
  rw [written, read, value, clamped_toInt, Int64.ofInt_toInt]

end Reading

end Integer

namespace Builtin

open Integer

section Calls

variable {base : Nat}

theorem base_of_le (lower : 2 ≤ base) (upper : base ≤ 36) :
    isBase (Int64.ofNat base) = true ∧ (Int64.ofNat base).toInt.toNat = base := by
  have all : ∀ b ≤ 36, 2 ≤ b → isBase (Int64.ofNat b) = true ∧ (Int64.ofNat b).toInt.toNat = b := by
    decide
  exact all base upper lower

theorem answers_itoa (lower : 2 ≤ base) (upper : base ≤ 36) (v : Int64) (m k : Marks) :
    Answers "std.itoa" [.integer v m, .integer (Int64.ofNat base) k]
      (.ofChars (write base v.toInt)) := by
  obtain ⟨known, value⟩ := base_of_le lower upper
  have written : integerText [.integer v m, .integer (Int64.ofNat base) k] =
      .ok (.ofChars (write (Int64.ofNat base).toInt.toNat v.toInt)) := if_pos known
  rw [value] at written
  exact answers_of_failing rfl rfl written

theorem readInBase_of_isBase (args : List Value) (known : isBase (Arguments.integer args 1) = true)
    (env : Environment) (c : Context) : readInBase env args c =
      .ok (.ofInteger
        (leadingInteger (Arguments.integer args 1).toInt.toNat (Arguments.chars args 0))) c := by
  unfold readInBase
  rw [if_pos (.inr known)]
  rfl

theorem answers_strtol (lower : 2 ≤ base) (upper : base ≤ 36) (s : String) (m k : Marks) :
    Answers "std.strtol" [.string s m, .integer (Int64.ofNat base) k]
      (.ofInteger (leadingInteger base s.toList)) := by
  obtain ⟨known, value⟩ := base_of_le lower upper
  have read := readInBase_of_isBase [.string s m, .integer (Int64.ofNat base) k] known
  rw [show Arguments.integer [.string s m, .integer (Int64.ofNat base) k] 1 = Int64.ofNat base from
    rfl, value] at read
  exact ⟨_, rfl, read⟩

theorem leadingInteger_of_blank {blanks : List Char} (blank : ∀ c ∈ blanks, Blank.isBlank c = true)
    (base : Nat) (text : List Char) :
    leadingInteger base (blanks ++ text) = leadingInteger base text := by
  have trimmed : Blank.trimStart (blanks ++ text) = Blank.trimStart text :=
    List.dropWhile_append_of_pos blank
  unfold leadingInteger
  rw [leading?_def, leading?_def, trimmed]

theorem readInBase_of_blank {blanks : List Char} (blank : ∀ c ∈ blanks, Blank.isBlank c = true)
    (text : String) (n : Int64) (m k : Marks) (env : Environment) :
    readInBase env [.string (String.ofList blanks ++ text) m, .integer n k] =
      readInBase env [.string text m, .integer n k] := by
  have characters : Arguments.chars [.string (String.ofList blanks ++ text) m, .integer n k] 0 =
      blanks ++ Arguments.chars [.string text m, .integer n k] 0 := by
    change (String.ofList blanks ++ text).toList = blanks ++ text.toList
    rw [String.toList_append, String.toList_ofList]
  unfold readInBase
  simp only [characters, leadingInteger_of_blank blank]
  rfl

/-- In every base, a number of 64 bits comes back from the digits that are written of it. But for
base 16, which knows a start of its own, what is read is the number that the digits stand for behind
a sign or without one, brought into the range of 64 bits, whatever follows them that is no digit.
Blanks in front change nothing in any base. -/
theorem radix_round_trip {base : Nat} (lower : 2 ≤ base) (upper : base ≤ 36) (m k : Marks) :
    (∀ v : Int64, ∃ text : String,
      Answers "std.itoa" [.integer v m, .integer (Int64.ofNat base) k] (.ofString text) ∧
      Answers "std.strtol" [.ofString text, .integer (Int64.ofNat base) k] (.ofInteger v)) ∧
    (base ≠ 16 → ∀ sign ds rest : List Char, sign ∈ [[], ['+'], ['-']] → ds ≠ [] →
      (∀ c ∈ ds, isDigit base c = true) → (∀ c ∈ rest.head?, isDigit base c = false) →
      Answers "std.strtol" [.string (String.ofList (sign ++ (ds ++ rest))) m,
        .integer (Int64.ofNat base) k]
        (.ofInt (clamped (signed sign (Nat.ofDigits base (ds.reverse.map (digitValue base))))))) ∧
    ∀ (blanks : List Char) (text : String) (n : Int64), (∀ c ∈ blanks, Blank.isBlank c = true) →
      ∃ b, ofName? "std.strtol" = some b ∧ ∀ env,
        b.run env [.string (String.ofList blanks ++ text) m, .integer n k] =
          b.run env [.string text m, .integer n k] := by
  refine ⟨fun v => ⟨_, answers_itoa lower upper v m k, ?_⟩,
    fun other sign ds rest hs filled digits ends => ?_, fun blanks text n blank =>
      ⟨_, rfl, readInBase_of_blank blank text n m k⟩⟩
  · have read := answers_strtol lower upper (String.ofList (write base v.toInt)) .plain k
    rwa [leadingInteger, String.toList_ofList, leading?_write lower upper, Option.getD_some] at read
  · have read := answers_strtol lower upper (String.ofList (sign ++ (ds ++ rest))) m k
    rwa [leadingInteger, String.toList_ofList, leading?_eq lower upper hs filled digits ends
      fun same => absurd same other, Option.getD_some] at read

theorem radix_round_trip_least :
    (∃ text : String, Answers "std.itoa" [.ofInteger Int64.minValue, .ofInteger 36]
      (.ofString text) ∧
      Answers "std.strtol" [.ofString text, .ofInteger 36] (.ofInteger Int64.minValue)) ∧
    Answers "std.strtol" [.ofString "-1Y2P0IJ32E8E9-", .ofInteger 36] (.ofInteger Int64.minValue) ∧
    ∃ b, ofName? "std.strtol" = some b ∧
      ∀ env, b.run env [.ofString " \t-7", .ofInteger 16] = b.run env [.ofString "-7",
        .ofInteger 16] := by
  obtain ⟨back, read, blank⟩ :=
    radix_round_trip (show 2 ≤ 36 by decide) (show 36 ≤ 36 by decide) .plain .plain
  have spaces : ∀ c ∈ [' ', '\t'], Blank.isBlank c = true := List.all_eq_true.mp (by decide)
  have digits : ∀ c ∈ "1Y2P0IJ32E8E9".toList, isDigit 36 c = true := List.all_eq_true.mp (by decide)
  have ends : ∀ c ∈ ['-'].head?, isDigit 36 c = false := by
    rintro c ⟨⟩
    rfl
  refine ⟨back Int64.minValue, ?_, blank _ "-7" 16 spaces⟩
  exact read (by decide) ['-'] "1Y2P0IJ32E8E9".toList ['-'] (by decide) (by decide) digits ends

end Calls

end Builtin

end EdgeCache
