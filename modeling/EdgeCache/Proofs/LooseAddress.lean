import EdgeCache.Proofs.Radix
import EdgeCache.Proofs.Segments
import Mathlib.Data.List.Forall2
import Mathlib.Data.List.Induction

/-! Loose addresses of one to four numbers. What is accepted is just what their grammar says, and
beyond it a plus sign in front of the digits of a part. -/

namespace EdgeCache

namespace Integer

variable {base limit n k : Nat} {beyond : Error} {cs ds : List Char}

structure Numeral (base : Nat) (ds : List Char) (n : Nat) : Prop where
  filled : ds ≠ []
  digits : ∀ c ∈ ds, isDigit base c = true
  value : Nat.ofDigits base (ds.reverse.map (digitValue base)) = n

def continued (base : Nat) (n : Nat) (cs : List Char) : Nat :=
  cs.foldl (fun n c => n * base + digitValue base c) n

theorem le_continued (lower : 0 < base) (n : Nat) (cs : List Char) : n ≤ continued base n cs := by
  induction cs generalizing n with
  | nil => exact le_rfl
  | cons c cs ih =>
    refine Nat.le_trans ?_ (ih (n * base + digitValue base c))
    exact Nat.le_trans (Nat.le_mul_of_pos_right n lower) (Nat.le_add_right _ _)

theorem continued_zero (cs : List Char) :
    continued base 0 cs = Nat.ofDigits base (cs.reverse.map (digitValue base)) := by
  rw [← ofDigits_reverse, List.reverse_reverse]
  rfl

theorem readDigits_eq_ok_iff (lower : 0 < base) (small : n ≤ limit) :
    readDigits base limit beyond n cs = .ok k ↔
    (∀ c ∈ cs, isDigit base c = true) ∧ continued base n cs = k ∧ k ≤ limit := by
  induction cs generalizing n with
  | nil =>
    rw [readDigits, Except.ok.injEq]
    exact ⟨fun same => ⟨fun c hc => absurd hc List.not_mem_nil, same, same ▸ small⟩, fun h => h.2.1⟩
  | cons c cs ih =>
    rw [readDigits, List.forall_mem_cons]
    cases digit : value? base c with
    | none =>
      have other : isDigit base c ≠ true := by simp [isDigit, digit]
      exact iff_of_false (by simp) fun h => other h.1.1
    | some d =>
      have first : isDigit base c = true := by simp [isDigit, digit]
      have next : continued base n (c :: cs) = continued base (n * base + d) cs := by
        simp [continued, digitValue, digit]
      dsimp only
      rw [next]
      split
      · rename_i large
        have := le_continued lower (n * base + d) cs
        exact iff_of_false (by simp) fun h => by omega
      · rw [ih (by omega), and_iff_right first]

theorem readDigits_eq_some_iff (lower : 0 < base) (filled : ds ≠ []) :
    (readDigits base limit beyond 0 ds).toOption = some k ↔ Numeral base ds k ∧ k ≤ limit := by
  have read : (readDigits base limit beyond 0 ds).toOption = some k ↔
      readDigits base limit beyond 0 ds = .ok k := by
    cases readDigits base limit beyond 0 ds <;> simp [Except.toOption]
  rw [read, readDigits_eq_ok_iff lower (Nat.zero_le _), continued_zero]
  exact ⟨fun ⟨digits, value, small⟩ => ⟨⟨filled, digits, value⟩, small⟩,
      fun ⟨⟨_, digits, value⟩, small⟩ =>
    ⟨digits, value, small⟩⟩

theorem readUnsigned_plus (filled : ds ≠ []) :
    readUnsigned base limit ('+' :: ds) = readDigits base limit .tooLarge 0 ds := by
  obtain ⟨d, others, rfl⟩ := List.exists_cons_of_ne_nil filled
  rfl

theorem readUnsigned_bare {c : Char} (bare : c ≠ '+') :
    readUnsigned base limit (c :: cs) = readDigits base limit .tooLarge 0 (c :: cs) := by
  unfold readUnsigned
  split
  · rename_i same
    cases same
  · rename_i same
    cases same
    exact absurd rfl bare
  · -- a lone minus sign is refused as a digit, too
    rename_i same
    cases same
    rfl
  · rename_i same
    cases same
    exact absurd rfl bare
  · rfl

theorem not_numeral_plus : ¬ Numeral base ('+' :: ds) k := fun h => by
  have digit := h.digits '+' (List.mem_cons_self ..)
  cases digit

theorem readUnsigned_eq_some_iff (lower : 0 < base) :
    (readUnsigned base limit cs).toOption = some k ↔
    ∃ sign ∈ [[], ['+']], ∃ ds, cs = sign ++ ds ∧ Numeral base ds k ∧ k ≤ limit := by
  have signs : (∃ sign ∈ [[], ['+']], ∃ ds, cs = sign ++ ds ∧ Numeral base ds k ∧ k ≤ limit) ↔
      (Numeral base cs k ∧ k ≤ limit) ∨ ∃ ds, cs = '+' :: ds ∧ Numeral base ds k ∧ k ≤ limit := by
        simp
  rw [signs]
  cases cs with
  | nil =>
    refine iff_of_false nofun ?_
    rintro (⟨empty, -⟩ | ⟨ds, ⟨⟩, -⟩)
    exact empty.filled rfl
  | cons c cs =>
    by_cases plus : c = '+'
    · subst plus
      rw [or_iff_right fun h => not_numeral_plus h.1]
      by_cases filled : cs = []
      · subst filled
        refine iff_of_false nofun ?_
        rintro ⟨ds, ⟨⟩, empty, -⟩
        exact empty.filled rfl
      · rw [readUnsigned_plus filled, readDigits_eq_some_iff lower filled]
        refine ⟨fun h => ⟨cs, rfl, h⟩, ?_⟩
        rintro ⟨ds, ⟨⟩, h⟩
        exact h
    · rw [readUnsigned_bare plus, readDigits_eq_some_iff lower (List.cons_ne_nil _ _)]
      refine (or_iff_left ?_).symm
      rintro ⟨ds, ⟨⟩, -⟩
      exact plus rfl

end Integer

open Integer (Numeral isDigit)

namespace Builtin

variable {part text : List Char} {parts : List (List Char)} {signs : List (List Char)}
    {ns : List Nat} {n : Nat} {a : Address}

/-- A part of a loose address, with what may stand in front of its digits: a decimal number, an
octal one behind a zero, or a hexadecimal one behind `0x`. Without a sign, a decimal number begins
with no zero, or it is a single one. -/
inductive PartOf (signs : List (List Char)) : List Char → Nat → Prop
  | decimal {sign ds : List Char} {n : Nat} (hs : sign ∈ signs) (numeral : Numeral 10 ds n)
      (plain : sign = [] → ds.head? = some '0' → ds = ['0']) : PartOf signs (sign ++ ds) n
  | octal {sign ds : List Char} {n : Nat} (hs : sign ∈ signs) (numeral : Numeral 8 ds n) :
    PartOf signs ('0' :: (sign ++ ds)) n
  | hexadecimal {x : Char} {sign ds : List Char} {n : Nat} (mark : x = 'x' ∨ x = 'X')
    (hs : sign ∈ signs)
      (numeral : Numeral 16 ds n) : PartOf signs ('0' :: x :: (sign ++ ds)) n

/-- What numbers of one to four parts make an address: all but the last are bytes, and the last
fills the bytes that are left. -/
inductive Fills : List Nat → Address → Prop
  | intro {head : List Nat} {last : Nat} (few : head.length ≤ 3) (bytes : ∀ n ∈ head, n ≤ 255)
      (fits : last < 256 ^ (4 - head.length)) :
      Fills (head ++ [last])
        (.v4 (BitVec.ofNat 32 (Nat.ofDigits 256 head.reverse * 256 ^ (4 - head.length) + last)))

def IsLoose (signs : List (List Char)) (text : List Char) (a : Address) : Prop :=
  ∃ parts ns, text = ['.'].intercalate parts ∧ List.Forall₂ (PartOf signs) parts ns ∧ Fills ns a

def optionalPlus : List (List Char) := [[], ['+']]

def Signed (base : Nat) (part : List Char) (n : Nat) : Prop :=
  ∃ sign ∈ optionalPlus, ∃ ds, part = sign ++ ds ∧ Numeral base ds n

section Parts

variable {base : Nat} {sign ds rest : List Char} {c x : Char}

theorem readUnsigned_word_iff (lower : 0 < base) (part : List Char) :
    (Integer.readUnsigned base (Word.count - 1) part).toOption = some n ↔
    Signed base part n ∧ n < 2 ^ 64 := by
  have words : n ≤ Word.count - 1 ↔ n < 2 ^ 64 := Nat.le_sub_one_iff_lt (by decide)
  rw [Integer.readUnsigned_eq_some_iff lower]
  constructor
  · rintro ⟨sign, hs, ds, rfl, numeral, small⟩
    exact ⟨⟨sign, hs, ds, rfl, numeral⟩, words.mp small⟩
  · rintro ⟨⟨sign, hs, ds, rfl, numeral⟩, small⟩
    exact ⟨sign, hs, ds, rfl, numeral, words.mpr small⟩

theorem startsHex_iff :
    Integer.startsHex part = true ↔ ∃ x rest, part = '0' :: x :: rest ∧ (x = 'x' ∨ x = 'X') := by
  constructor
  · intro hex
    unfold Integer.startsHex at hex
    split at hex
    · exact ⟨_, _, rfl, by simpa using hex⟩
    · cases hex
  · rintro ⟨x, rest, rfl, mark⟩
    simpa [Integer.startsHex] using mark

theorem not_mark (hs : sign ∈ optionalPlus) (small : base ≤ 10) (numeral : Numeral base ds n)
    (same : sign ++ ds = x :: rest) : ¬ (x = 'x' ∨ x = 'X') := by
  have refused : ∀ b ≤ 10, isDigit b 'x' = false ∧ isDigit b 'X' = false := by decide
  simp only [optionalPlus, List.mem_cons, List.not_mem_nil, or_false] at hs
  rcases hs with rfl | rfl
  · obtain rfl : ds = x :: rest := same
    have digit := numeral.digits x (List.mem_cons_self ..)
    rintro (rfl | rfl)
    · rw [(refused base small).1] at digit
      cases digit
    · rw [(refused base small).2] at digit
      cases digit
  · obtain ⟨rfl, -⟩ := List.cons.inj same
    decide

theorem ne_zero_cons (hs : sign ∈ optionalPlus)
    (plain : sign = [] → ds.head? = some '0' → ds = ['0']) :
    sign ++ ds ≠ '0' :: c :: rest := by
  intro same
  simp only [optionalPlus, List.mem_cons, List.not_mem_nil, or_false] at hs
  rcases hs with rfl | rfl
  · obtain rfl : ds = '0' :: c :: rest := same
    cases plain rfl rfl
  · cases same

theorem partOf_hexadecimal_iff (mark : x = 'x' ∨ x = 'X') :
    PartOf optionalPlus ('0' :: x :: rest) n ↔ Signed 16 rest n := by
  constructor
  · generalize same : '0' :: x :: rest = part
    rintro (⟨hs, numeral, plain⟩ | ⟨hs, numeral⟩ | ⟨_, hs, numeral⟩)
    · exact absurd same.symm (ne_zero_cons hs plain)
    · exact absurd mark (not_mark hs (by decide) numeral (List.cons.inj same).2.symm)
    · exact ⟨_, hs, _, (List.cons.inj (List.cons.inj same).2).2, numeral⟩
  · rintro ⟨sign, hs, ds, rfl, numeral⟩
    exact .hexadecimal mark hs numeral

theorem partOf_octal_iff (bare : ¬ (c = 'x' ∨ c = 'X')) :
    PartOf optionalPlus ('0' :: c :: rest) n ↔ Signed 8 (c :: rest) n := by
  constructor
  · generalize same : '0' :: c :: rest = part
    rintro (⟨hs, numeral, plain⟩ | ⟨hs, numeral⟩ | ⟨mark, hs, numeral⟩)
    · exact absurd same.symm (ne_zero_cons hs plain)
    · exact ⟨_, hs, _, (List.cons.inj same).2, numeral⟩
    · cases same
      exact absurd mark bare
  · rintro ⟨sign, hs, ds, same, numeral⟩
    rw [same]
    exact .octal hs numeral

theorem partOf_decimal_iff (short : ∀ c rest, part ≠ '0' :: c :: rest) :
    PartOf optionalPlus part n ↔ Signed 10 part n := by
  constructor
  · rintro (⟨hs, numeral, _⟩ | @⟨sign, ds, _, hs, numeral⟩ | ⟨_, _, _⟩)
    · exact ⟨_, hs, _, rfl, numeral⟩
    · have filled : sign ++ ds ≠ [] := List.append_ne_nil_of_right_ne_nil _ numeral.filled
      obtain ⟨c, rest, same⟩ := List.exists_cons_of_ne_nil filled
      exact absurd (congrArg (List.cons '0') same) (short c rest)
    · exact absurd rfl (short _ _)
  · rintro ⟨sign, hs, ds, rfl, numeral⟩
    refine .decimal hs numeral ?_
    rintro rfl zero
    obtain ⟨others, rfl⟩ := List.head?_eq_some_iff.mp zero
    cases others with
    | nil => rfl
    | cons c rest => exact absurd rfl (short c rest)

theorem addressPart?_eq_some_iff :
    addressPart? part = some n ↔ PartOf optionalPlus part n ∧ n < 2 ^ 64 := by
  unfold addressPart?
  dsimp only
  split
  · rename_i hex
    obtain ⟨x, rest, rfl, mark⟩ := startsHex_iff.mp hex
    rw [List.drop_succ_cons, List.drop_succ_cons, List.drop_zero, readUnsigned_word_iff (by decide),
      partOf_hexadecimal_iff mark]
  · rename_i bare
    rw [startsHex_iff] at bare
    split
    · rename_i c rest
      rw [readUnsigned_word_iff (by decide), partOf_octal_iff fun mark => bare ⟨c, rest, rfl, mark⟩]
    · rename_i short
      rw [readUnsigned_word_iff (by decide), partOf_decimal_iff short]

end Parts

section Texts

variable {head : List Nat} {last : Nat} {c : Char}

def filled? (ns : List Nat) : Option Address := do
  let last ← ns.getLast?
  let head := ns.dropLast
  if 3 < head.length ∨ head.any (255 < ·) then none
  let room := twoTo (8 * (4 - head.length))
  if room ≤ last then none
  else some (.v4 (BitVec.ofNat 32 (head.foldl (fun n p => n * 256 + p) 0 * room + last)))

theorem looseAddress?_eq (text : List Char) :
    looseAddress? text = ((text.splitOn '.').mapM addressPart?).bind filled? := by
  rw [← Pieces.splitOn_eq]
  rfl

theorem foldl_bytes (ns : List Nat) :
    ns.foldl (fun n p => n * 256 + p) 0 = Nat.ofDigits 256 ns.reverse := by
  induction ns using List.reverseRec with
  | nil => rfl
  | append_singleton ns n ih =>
    rw [List.foldl_append, List.foldl_cons, List.foldl_nil, ih, List.reverse_append,
      List.reverse_singleton, List.singleton_append, Nat.ofDigits_cons, Nat.add_comm, Nat.mul_comm]

theorem filled?_concat (head : List Nat) (last : Nat) : filled? (head ++ [last]) =
    if 3 < head.length ∨ head.any (255 < ·) then none
    else if 256 ^ (4 - head.length) ≤ last then none
    else some (.v4
      (BitVec.ofNat 32 (Nat.ofDigits 256 head.reverse * 256 ^ (4 - head.length) + last))) := by
  have room : twoTo (8 * (4 - head.length)) = 256 ^ (4 - head.length) := pow_mul 2 8 _
  unfold filled?
  rw [List.getLast?_concat, List.dropLast_concat, ← foldl_bytes, ← room]
  dsimp only [Option.bind_eq_bind, Option.bind_some]
  split <;> rfl

theorem filled?_eq_some_iff : filled? ns = some a ↔ Fills ns a := by
  constructor
  · intro made
    rcases ns.eq_nil_or_concat with rfl | ⟨head, last, rfl⟩
    · cases made
    · rw [List.concat_eq_append, filled?_concat] at made
      split at made
      · cases made
      · rename_i inside
        rw [not_or, not_lt, List.any_eq_true] at inside
        split at made
        · cases made
        · rename_i fits
          cases made
          rw [List.concat_eq_append]
          exact .intro inside.1 (fun n hn => by simpa using fun large => inside.2 ⟨n, hn, large⟩)
            (not_le.mp fits)
  · rintro ⟨few, bytes, fits⟩
    rw [filled?_concat, if_neg, if_neg (not_le.mpr fits)]
    rw [not_or, not_lt, List.any_eq_true]
    refine ⟨few, ?_⟩
    rintro ⟨n, hn, large⟩
    exact absurd (of_decide_eq_true large) (not_lt.mpr (bytes n hn))

theorem Fills.small (fills : Fills ns a) (hn : n ∈ ns) : n < 2 ^ 64 := by
  obtain ⟨few, bytes, fits⟩ := fills
  rename_i head last
  rcases List.mem_append.mp hn with hn | hn
  · exact Nat.lt_of_le_of_lt (bytes n hn) (by decide)
  · obtain rfl := List.mem_singleton.mp hn
    exact fits.trans_le ((Nat.pow_le_pow_right (by decide) (Nat.sub_le _ _)).trans (by decide))

theorem mapM_eq_some_iff {α β : Type} {f : α → Option β} {as : List α} {bs : List β} :
    as.mapM f = some bs ↔ List.Forall₂ (fun a b => f a = some b) as bs := by
  induction as generalizing bs with
  | nil => simp [List.mapM_nil, eq_comm]
  | cons a as ih =>
    simp only [List.mapM_cons, List.forall₂_cons_left_iff, Option.bind_eq_bind,
      Option.bind_eq_some_iff, Option.pure_def, Option.some.injEq, ih, eq_comm (b := bs)]
    exact ⟨fun ⟨b, hb, bs, hbs, same⟩ => ⟨b, bs, hb, hbs, same⟩,
      fun ⟨b, bs, hb, hbs, same⟩ => ⟨b, hb, bs, hbs, same⟩⟩

theorem looseAddress?_eq_some_iff : looseAddress? text = some a ↔
    ∃ ns, List.Forall₂ (fun p n => PartOf optionalPlus p n ∧ n < 2 ^ 64) (text.splitOn '.') ns ∧
    Fills ns a := by
  rw [looseAddress?_eq, Option.bind_eq_some_iff]
  simp only [mapM_eq_some_iff, filled?_eq_some_iff, addressPart?_eq_some_iff]

theorem exists_of_mem_left {α β : Type} {R : α → β → Prop} {as : List α} {bs : List β} {a : α}
    (h : List.Forall₂ R as bs) (ha : a ∈ as) : ∃ b, R a b := by
  induction h with
  | nil => cases ha
  | cons first _ ih =>
    rcases List.mem_cons.mp ha with rfl | ha
    · exact ⟨_, first⟩
    · exact ih ha

theorem forall₂_imp_mem {α β : Type} {R S : α → β → Prop} {as : List α} {bs : List β}
    (h : List.Forall₂ R as bs) (imp : ∀ a ∈ as, ∀ b ∈ bs, R a b → S a b) :
    List.Forall₂ S as bs := by
  induction h with
  | nil => exact .nil
  | @cons a b as bs first _ ih =>
    refine .cons (imp a (List.mem_cons_self ..) b (List.mem_cons_self ..) first)
      (ih fun c hc d hd => ?_)
    exact imp c (List.mem_cons_of_mem _ hc) d (List.mem_cons_of_mem _ hd)

theorem isDigit_of_le {base : Nat} (upper : base ≤ 36) (h : isDigit base c = true) :
    isDigit 36 c = true := by
  obtain ⟨d, digit⟩ := Option.isSome_iff_exists.mp h
  exact Option.isSome_iff_exists.mpr ⟨d, (Integer.value?_eq_some_of_le upper digit).2⟩

theorem PartOf.mem (of : PartOf signs part n) (hc : c ∈ part) :
    (∃ sign ∈ signs, c ∈ sign) ∨ isDigit 36 c = true := by
  have behind {base : Nat} {sign ds : List Char} (hs : sign ∈ signs) (upper : base ≤ 36)
      (numeral : Numeral base ds n)
      (hc : c ∈ sign ++ ds) : (∃ sign ∈ signs, c ∈ sign) ∨ isDigit 36 c = true := by
    rcases List.mem_append.mp hc with hc | hc
    · exact .inl ⟨sign, hs, hc⟩
    · exact .inr (isDigit_of_le upper (numeral.digits c hc))
  cases of with
  | decimal hs numeral => exact behind hs (by decide) numeral hc
  | octal hs numeral =>
    rcases List.mem_cons.mp hc with rfl | hc
    · exact .inr rfl
    · exact behind hs (by decide) numeral hc
  | hexadecimal mark hs numeral =>
    rcases List.mem_cons.mp hc with rfl | hc
    · exact .inr rfl
    · rcases List.mem_cons.mp hc with rfl | hc
      · rcases mark with rfl | rfl <;> exact .inr rfl
      · exact behind hs (by decide) numeral hc

theorem PartOf.mono {signs' : List (List Char)} (of : PartOf signs part n) (sub : signs ⊆ signs') :
    PartOf signs' part n := by
  cases of with
  | decimal hs numeral plain => exact .decimal (sub hs) numeral plain
  | octal hs numeral => exact .octal (sub hs) numeral
  | hexadecimal mark hs numeral => exact .hexadecimal mark (sub hs) numeral

theorem PartOf.unsigned (of : PartOf optionalPlus part n) (free : '+' ∉ part) :
    PartOf [[]] part n := by
  have bare {sign ds : List Char} (hs : sign ∈ optionalPlus) (free : '+' ∉ sign ++ ds) :
      sign ∈ [[]] := by
    simp only [optionalPlus, List.mem_cons, List.not_mem_nil, or_false] at hs
    rcases hs with rfl | rfl
    · exact List.mem_singleton_self _
    · exact absurd (List.mem_cons_self ..) free
  cases of with
  | decimal hs numeral plain => exact .decimal (bare hs free) numeral plain
  | octal hs numeral => exact .octal (bare hs fun h => free (List.mem_cons_of_mem _ h)) numeral
  | hexadecimal mark hs numeral =>
    exact .hexadecimal mark
      (bare hs fun h => free (List.mem_cons_of_mem _ (List.mem_cons_of_mem _ h))) numeral

theorem mem_intercalate_iff {sep : Char} (other : c ≠ sep) :
    c ∈ [sep].intercalate parts ↔ ∃ p ∈ parts, c ∈ p := by
  induction parts with
  | nil => simp
  | cons p parts ih =>
    cases parts with
    | nil => simp
    | cons q parts =>
      rw [List.intercalate_cons_cons, List.mem_append, List.mem_append, ih, List.mem_singleton,
        or_iff_left other]
      simp

theorem looseAddress?_iff : looseAddress? text = some a ↔ IsLoose optionalPlus text a := by
  rw [looseAddress?_eq_some_iff]
  constructor
  · rintro ⟨ns, of, fills⟩
    exact ⟨text.splitOn '.', ns, (List.intercalate_splitOn '.').symm,
      of.imp fun _ _ h => h.1, fills⟩
  · rintro ⟨parts, ns, rfl, of, fills⟩
    have free : ∀ p ∈ parts, '.' ∉ p := fun p hp dot => by
      obtain ⟨n, part⟩ := exists_of_mem_left of hp
      rcases part.mem dot with ⟨sign, hs, dot⟩ | digit
      · revert sign
        decide
      · revert digit
        decide
    have filled : parts ≠ [] := by
      rintro rfl
      cases of
      cases filled?_eq_some_iff.mpr fills
    rw [List.splitOn_intercalate '.' free filled]
    exact ⟨ns, forall₂_imp_mem of fun _ _ n hn part => ⟨part, fills.small hn⟩, fills⟩

theorem IsLoose.mono {signs' : List (List Char)} (loose : IsLoose signs text a)
    (sub : signs ⊆ signs') :
    IsLoose signs' text a := by
  obtain ⟨parts, ns, same, of, fills⟩ := loose
  exact ⟨parts, ns, same, of.imp fun _ _ h => h.mono sub, fills⟩

theorem unsigned_iff : IsLoose [[]] text a ↔ IsLoose optionalPlus text a ∧ '+' ∉ text := by
  constructor
  · intro loose
    refine ⟨loose.mono (by decide), ?_⟩
    obtain ⟨parts, ns, rfl, of, -⟩ := loose
    rw [mem_intercalate_iff (by decide)]
    rintro ⟨p, hp, plus⟩
    obtain ⟨n, part⟩ := exists_of_mem_left of hp
    rcases part.mem plus with ⟨sign, hs, plus⟩ | digit
    · revert sign
      decide
    · revert digit
      decide
  · rintro ⟨⟨parts, ns, rfl, of, fills⟩, free⟩
    rw [mem_intercalate_iff (by decide)] at free
    refine ⟨parts, ns, rfl, forall₂_imp_mem of fun p hp _ _ part => ?_, fills⟩
    exact part.unsigned fun plus => free ⟨p, hp, plus⟩

end Texts

section Calls

variable {s fallback : String} {m k : Marks}

theorem answers_anystr2ip_iff (useless : anyAddress? fallback = none) :
    Answers "std.anystr2ip" [.string s m, .string fallback k] (.ofIp a) ↔
    anyAddress? s = some a := by
  have asked : Arguments.string [.string s m, .string fallback k] 0 = s := rfl
  have otherwise : Arguments.string [.string s m, .string fallback k] 1 = fallback := rfl
  rw [answers_failing_iff rfl rfl, firstAddress, asked, otherwise, useless]
  cases anyAddress? s with
  | none => simp
  | some b => simp [Value.ofIp]

/-- A text that is no address in the usual form is taken for one exactly if it is a loose address in
which each part may have a plus sign in front of its digits. So loose addresses, which have no
signs, are what is taken, just where no text with a plus sign is. -/
theorem loose_address_iff (other : Address.read? s = none) (useless : anyAddress? fallback = none)
    (m k : Marks) :
    (∀ a, Answers "std.anystr2ip" [.string s m, .string fallback k] (.ofIp a) ↔
      IsLoose optionalPlus s.toList a) ∧
    ((∀ a, Answers "std.anystr2ip" [.string s m, .string fallback k] (.ofIp a) ↔
      IsLoose [[]] s.toList a) ↔ ¬ ('+' ∈ s.toList ∧ ∃ a, IsLoose optionalPlus s.toList a)) := by
  have accepted (a : Address) :
      Answers "std.anystr2ip" [.string s m, .string fallback k] (.ofIp a) ↔
      IsLoose optionalPlus s.toList a := by
    rw [answers_anystr2ip_iff useless, anyAddress?, other, looseAddress?_iff]
  refine ⟨accepted, ?_⟩
  simp only [accepted, unsigned_iff]
  constructor
  · rintro same ⟨plus, a, loose⟩
    exact ((same a).mp loose).2 plus
  · intro none a
    exact ⟨fun loose => ⟨loose, fun plus => none ⟨plus, a, loose⟩⟩, fun h => h.1⟩

theorem loose_address_iff_hexadecimal :
    Address.read? "0x7f.1" = none ∧ anyAddress? "" = none ∧
      Answers "std.anystr2ip" [.ofString "0x7f.1", .ofString ""] (.ofIp .loopback) := by
  have other : Address.read? "0x7f.1" = none := by decide +kernel
  have useless : anyAddress? "" = none := by decide +kernel
  refine ⟨other, useless, ((loose_address_iff other useless .plain .plain).1 .loopback).mpr ?_⟩
  have net : PartOf optionalPlus "0x7f".toList 127 :=
    .hexadecimal (.inl rfl) (List.mem_cons_self ..) ⟨by decide, List.all_eq_true.mp (by decide),
      by decide⟩
  have host : PartOf optionalPlus "1".toList 1 :=
    .decimal (List.mem_cons_self ..) ⟨by decide, List.all_eq_true.mp (by decide), by decide⟩
      (by decide)
  have fills : Fills ([127] ++ [1]) .loopback := .intro (by decide) (by decide) (by decide)
  exact ⟨_, _, rfl, .cons net (.cons host .nil), fills⟩

/-- An address with a plus sign in front of it is taken, though no part of a loose address has a
sign. -/
theorem signed_address_taken :
    ¬ ∀ a, Answers "std.anystr2ip" [.ofString "+1.2.3.4", .ofString ""] (.ofIp a) ↔
    IsLoose [[]] "+1.2.3.4".toList a := by
  intro same
  have taken : anyAddress? "+1.2.3.4" = some (.v4 0x01020304#32) := by decide +kernel
  have useless : anyAddress? "" = none := by decide +kernel
  have answer := (answers_anystr2ip_iff (m := .plain) (k := .plain) useless).mpr taken
  exact (unsigned_iff.mp ((same _).mp answer)).2 (by decide)

end Calls

end Builtin

end EdgeCache
