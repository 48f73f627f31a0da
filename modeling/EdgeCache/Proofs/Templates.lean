import EdgeCache.Pattern.Replacement
import EdgeCache.Proofs.Segments
import Mathlib.Data.Nat.Digits.Defs

/-! What a replacement stands for. The template of a replacement is expanded to just what was
written, with the texts of groups in the place of the references to them. -/

namespace EdgeCache

namespace Decimal

variable {c : Char} {ds : List Char}

def digitValue (c : Char) : Nat := c.toNat - '0'.toNat

theorem digit?_of_isDigit (h : isDigit c = true) : digit? c = some (digitValue c) :=
  if_pos (by simpa [isDigit] using h)

theorem ofDigits_concat (digit : isDigit c = true) (ds : List Char) :
    ofDigits (ds ++ [c]) = ofDigits ds * 10 + digitValue c := by
  simp only [ofDigits, List.foldl_append, List.foldl_cons, List.foldl_nil, digit?_of_isDigit digit,
    Option.getD_some]

theorem ofDigits_reverse (digits : ∀ c ∈ ds, isDigit c = true) :
    ofDigits ds.reverse = Nat.ofDigits 10 (ds.map digitValue) := by
  induction ds with
  | nil => rfl
  | cons c ds ih =>
    obtain ⟨digit, others⟩ := List.forall_mem_cons.mp digits
    rw [List.reverse_cons, ofDigits_concat digit, ih others, List.map_cons, Nat.ofDigits_cons,
      Nat.add_comm, Nat.mul_comm]

end Decimal

namespace Pattern

open Decimal (isDigit digitValue)

def Match.groupText (m : Match) (text : Array Char) (n : Nat) : List Char :=
  ((m.groups[n]?).join.map (Span.text · text)).getD []

namespace Replacement

variable {groups : List String} {ds rest out : List Char} {c : Char} {fuel : Nat}

/-- What a replacement stands for, given the texts of the groups: each backslash with all the digits
that follow it, at least one, stands for the text of a group, and every other character for
itself. -/
inductive StandsFor (group : Nat → List Char) : List Char → List Char → Prop
  | nothing : StandsFor group [] []
  | reference {ds rest out : List Char} (filled : ds ≠ []) (digits : ∀ d ∈ ds, isDigit d = true)
      (longest : ∀ d ∈ rest.head?, isDigit d = false) (others : StandsFor group rest out) :
      StandsFor group ('\\' :: (ds ++ rest))
        (group (Nat.ofDigits 10 (ds.reverse.map digitValue)) ++ out)
  | verbatim {c : Char} {rest out : List Char}
    (plain : c = '\\' → ∀ d ∈ rest.head?, isDigit d = false)
      (others : StandsFor group rest out) : StandsFor group (c :: rest) (c :: out)

theorem StandsFor.exists_reference {group : Nat → List Char} {d : Char} {others : List Char}
    (digit : isDigit d = true) (behind : StandsFor group ((d :: others).dropWhile isDigit) out) :
    ∃ out, StandsFor group ('\\' :: d :: others) out := by
  have filled : (d :: others).takeWhile isDigit ≠ [] := by
    rw [List.takeWhile_cons_of_pos digit]
    exact List.cons_ne_nil _ _
  have longest : ∀ e ∈ ((d :: others).dropWhile isDigit).head?, isDigit e = false := by
    have ends := List.head?_dropWhile_not isDigit (d :: others)
    rintro e first
    rwa [first] at ends
  have found := StandsFor.reference filled (fun _ => List.mem_takeWhile_imp) longest behind
  rw [List.takeWhile_append_dropWhile] at found
  exact ⟨_, found⟩

theorem exists_standsFor (group : Nat → List Char) (cs : List Char) :
    ∃ out, StandsFor group cs out := by
  -- a reference takes many characters at once, so that the induction is on the length
  induction h : cs.length using Nat.strongRecOn generalizing cs with
  | ind n ih =>
    subst h
    match cs with
    | [] => exact ⟨[], .nothing⟩
    | c :: rest =>
      by_cases refers : c = '\\' ∧ ∃ d ∈ rest.head?, isDigit d = true
      · obtain ⟨rfl, d, first, digit⟩ := refers
        obtain ⟨others, rfl⟩ : ∃ others, rest = d :: others := List.head?_eq_some_iff.mp first
        have shorter : ((d :: others).dropWhile isDigit).length < ('\\' :: d :: others).length :=
          Nat.lt_succ_of_le (List.dropWhile_sublist _).length_le
        obtain ⟨out, behind⟩ := ih _ shorter _ rfl
        exact behind.exists_reference digit
      · obtain ⟨out, others⟩ := ih rest.length (Nat.lt_succ_self _) rest rfl
        refine ⟨_, .verbatim (fun slash d first => ?_) others⟩
        exact Bool.eq_false_iff.mpr fun digit => refers ⟨slash, d, first, digit⟩

section Writing

theorem templateFrom_of_digits (digits : ∀ d ∈ ds, isDigit d = true) (rest : List Char) :
    templateFrom true (ds ++ rest) = ds ++ templateFrom true rest := by
  induction ds with
  | nil => rfl
  | cons d ds ih =>
    obtain ⟨digit, others⟩ := List.forall_mem_cons.mp digits
    rw [List.cons_append, templateFrom, if_pos (by simp [digit]), ih others, List.cons_append]

theorem templateFrom_of_ends (ends : ∀ d ∈ rest.head?, isDigit d = false) :
    templateFrom true rest = '\x7d' :: template rest := by
  cases rest with
  | nil => rfl
  | cons c rest =>
    have other : isDigit c = false := ends c rfl
    rw [template, templateFrom, templateFrom, other]
    rfl

theorem template_reference (filled : ds ≠ []) (digits : ∀ d ∈ ds, isDigit d = true)
    (longest : ∀ d ∈ rest.head?, isDigit d = false) :
    template ('\\' :: (ds ++ rest)) = '$' :: '\x7b' :: (ds ++ '\x7d' :: template rest) := by
  obtain ⟨d, others, rfl⟩ := List.exists_cons_of_ne_nil filled
  have digit : isDigit d = true := digits d (List.mem_cons_self ..)
  rw [← templateFrom_of_ends longest, ← templateFrom_of_digits digits, template, templateFrom]
  simp [digit]

theorem template_dollar (rest : List Char) : template ('$' :: rest) = '$' :: '$' :: template rest :=
  rfl

theorem template_verbatim (other : c ≠ '$')
    (plain : c = '\\' → ∀ d ∈ rest.head?, isDigit d = false) :
    template (c :: rest) = c :: template rest := by
  have bare : (c == '\\' && rest.head?.any isDigit) = false := by
    rw [Bool.and_eq_false_imp, beq_iff_eq]
    intro slash
    cases first : rest.head? with
    | none => rfl
    | some d => exact plain slash d first
  rw [template, templateFrom, bare, beq_eq_false_iff_ne.mpr other]
  rfl

end Writing

section Expanding

theorem named_of_digits (filled : ds ≠ []) (digits : ∀ d ∈ ds, isDigit d = true) :
    named groups ds = group groups ds := by
  unfold named
  rw [if_pos]
  rw [List.all_eq_true.mpr digits, Bool.true_and, List.isEmpty_eq_false_iff.mpr filled]
  rfl

theorem not_mem_of_digits (digits : ∀ d ∈ ds, isDigit d = true) : '\x7d' ∉ ds := fun h => by
  have digit := digits _ h
  revert digit
  decide

theorem expandFrom_reference (filled : ds ≠ []) (digits : ∀ d ∈ ds, isDigit d = true)
    (cs : List Char) :
    expandFrom groups (fuel + 1) ('$' :: '\x7b' :: (ds ++ '\x7d' :: cs)) =
      group groups ds ++ expandFrom groups fuel cs := by
  rw [expandFrom, Pieces.cutAt?_of_append (not_mem_of_digits digits)]
  dsimp only
  rw [named_of_digits filled digits]

theorem expandFrom_verbatim (other : c ≠ '$') (cs : List Char) :
    expandFrom groups (fuel + 1) (c :: cs) = c :: expandFrom groups fuel cs := by
  rw [expandFrom]
  · rintro rest rfl
    exact absurd rfl other
  · rintro rest rfl
    exact absurd rfl other
  · rintro rfl
    exact absurd rfl other

theorem group_texts (digits : ∀ d ∈ ds, isDigit d = true) (m : Match) (text : Array Char) :
    group (m.texts text) ds = m.groupText text (Nat.ofDigits 10 (ds.reverse.map digitValue)) := by
  have number : Decimal.ofDigits ds = Nat.ofDigits 10 (ds.reverse.map digitValue) := by
    rw [← Decimal.ofDigits_reverse fun d hd => digits d (List.mem_reverse.mp hd),
      List.reverse_reverse]
  unfold group Match.texts Match.groupText
  rw [number, List.getD_eq_getElem?_getD, List.getElem?_map]
  cases m.groups[Nat.ofDigits 10 (ds.reverse.map digitValue)]? with
  | none => rfl
  | some part =>
    cases part with
    | none => rfl
    | some span => exact String.toList_ofList

theorem expandFrom_template {m : Match} {text : Array Char}
    (means : StandsFor (m.groupText text) rest out) (enough : (template rest).length ≤ fuel) :
    expandFrom (m.texts text) fuel (template rest) = out := by
  induction means generalizing fuel with
  | nothing => cases fuel <;> rfl
  | @reference ds rest out filled digits longest _ ih =>
    rw [template_reference filled digits longest] at enough ⊢
    obtain ⟨fuel, rfl⟩ := Nat.exists_eq_add_of_lt (Nat.lt_of_lt_of_le (Nat.succ_pos _) enough)
    rw [Nat.zero_add, expandFrom_reference filled digits, group_texts digits, ih]
    simp only [List.length_cons, List.length_append] at enough
    omega
  | @verbatim c rest out plain _ ih =>
    by_cases dollar : c = '$'
    · subst dollar
      rw [template_dollar] at enough ⊢
      obtain ⟨fuel, rfl⟩ := Nat.exists_eq_add_of_lt (Nat.lt_of_lt_of_le (Nat.succ_pos _) enough)
      simp only [List.length_cons] at enough
      rw [Nat.zero_add, expandFrom, ih (by omega)]
    · rw [template_verbatim dollar plain] at enough ⊢
      obtain ⟨fuel, rfl⟩ := Nat.exists_eq_add_of_lt (Nat.lt_of_lt_of_le (Nat.succ_pos _) enough)
      simp only [List.length_cons] at enough
      rw [Nat.zero_add, expandFrom_verbatim dollar, ih (by omega)]

end Expanding

theorem standsFor_expand (m : Match) (text : Array Char) (replacement : List Char) :
    StandsFor (m.groupText text) replacement (expand (m.texts text) (template replacement)) := by
  obtain ⟨out, means⟩ := exists_standsFor (m.groupText text) replacement
  rwa [expand, expandFrom_template means le_rfl]

/-- A text from a place on, with what a replacement stands for in the place of each match. -/
inductive Replaced (text : Array Char) (replacement : List Char) :
    Nat → List Match → List Char → Prop
  | rest (place : Nat) : Replaced text replacement place [] (text.extract place text.size).toList
  | found {m : Match} {ms : List Match} {out others : List Char} (place : Nat)
      (means : StandsFor (m.groupText text) replacement out)
      (behind : Replaced text replacement m.span.stop ms others) :
      Replaced text replacement place (m :: ms)
        ((text.extract place m.span.start).toList ++ out ++ others)

theorem replaced_fill (text : Array Char) (replacement : List Char) (place : Nat)
    (ms : List Match) :
    Replaced text replacement place ms (fill text (template replacement) place ms) := by
  induction ms generalizing place with
  | nil => exact .rest place
  | cons m ms ih => exact .found place (standsFor_expand m text replacement) (ih m.span.stop)

/-- For every match, the template of a replacement is expanded to what the replacement stands for,
and to nothing else. This is what a text has in the place of its first match, or of each match,
after replacing. -/
theorem template_expands_iff (replacement : List Char) :
    (∀ (m : Match) (text : Array Char) (out : List Char),
      expand (m.texts text) (template replacement) = out ↔
      StandsFor (m.groupText text) replacement out) ∧
    ∀ (p : Pattern) (s : String),
      Replaced s.toList.toArray replacement 0 (p.find? s.toList.toArray 0).toList
        (replace p false s (String.ofList replacement)).toList ∧
      Replaced s.toList.toArray replacement 0 (p.allMatches s.toList.toArray)
        (replace p true s (String.ofList replacement)).toList := by
  refine ⟨fun m text out => ⟨?_, fun means => expandFrom_template means le_rfl⟩,
    fun p s => ⟨?_, ?_⟩⟩
  · rintro rfl
    exact standsFor_expand m text replacement
  all_goals
    rw [replace, String.toList_ofList, String.toList_ofList]
    exact replaced_fill _ _ _ _

example :
    expand ["www.example.com", "example.com"] (template "\\1:$x\\2\\".toList) =
      "example.com:$x\\".toList := by decide

end Replacement

end Pattern

end EdgeCache
