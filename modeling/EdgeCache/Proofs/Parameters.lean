import EdgeCache.Proofs.Escapes
import EdgeCache.Proofs.Segments

/-! What a parameter of a URL reads as after it was set. A name without separators is found again,
with its value but for the blanks in it, and leaves the other parameters alone. -/

namespace EdgeCache

namespace Percent

theorem map_plusForBlank_eq_iff (s : List Char) : s.map plusForBlank = s ↔ ' ' ∉ s := by
  induction s with
  | nil => simp
  | cons c s ih =>
    have head : plusForBlank c = c ↔ ' ' ≠ c := by
      unfold plusForBlank
      split
      · rename_i blank
        subst blank
        decide
      · rename_i other
        exact iff_of_true rfl fun same => other same.symm
    rw [List.map_cons, List.cons.injEq, ih, head, List.mem_cons, not_or]

theorem separator_not_mem_formByte (b : UInt8) : '&' ∉ formByte b := by
  have safe : ∀ n < 128, isFormSafe (UInt8.ofNat n) = true → '&' ≠ Char.ofNat n := by decide
  have digit : ∀ n < 16, '&' ≠ Hex.digitOf true n := by decide
  have hb := b.toNat_lt
  unfold formByte
  split
  · decide
  · split
    · rename_i unescaped
      have other := safe _ (ascii_of_isFormSafe unescaped).1 (by rwa [UInt8.ofNat_toNat])
      exact List.not_mem_cons_of_ne_of_not_mem other List.not_mem_nil
    · simp only [escape, Hex.pair, List.mem_cons, List.not_mem_nil, or_false, not_or]
      exact ⟨by decide, digit _ (by omega), digit _ (by omega)⟩

theorem separator_not_mem_encodeForm (s : List Char) : '&' ∉ encodeForm s := by
  intro h
  obtain ⟨b, -, h⟩ := List.mem_flatMap.mp h
  exact separator_not_mem_formByte b h

end Percent

namespace Query

variable {name new m s : List Char} {segments : List (List Char)}

section Names

def IsPlain (name : List Char) : Prop := '&' ∉ name ∧ '=' ∉ name

instance : DecidablePred IsPlain := fun _ => inferInstanceAs (Decidable (_ ∧ _))

theorem nameOf_append (plain : '=' ∉ name) (rest : List Char) :
    nameOf (name ++ '=' :: rest) = name :=
  Pieces.takeWhile_of_append plain rest

theorem valueOf_append (plain : '=' ∉ name) (rest : List Char) :
    valueOf (name ++ '=' :: rest) = rest := by
  unfold valueOf
  rw [nameOf_append plain, List.drop_left]
  rfl

theorem isPlain_nameOf (free : '&' ∉ s) : IsPlain (nameOf s) :=
  ⟨fun h => free ((List.takeWhile_subset _) h), fun h => by simpa using List.mem_takeWhile_imp h⟩

theorem map_nameOf_splitOn {rest : List Char} (free : '&' ∉ rest) (name : List Char) :
    ((name ++ '=' :: rest).splitOn '&').map nameOf = (name.splitOn '&').map nameOf := by
  induction name with
  | nil =>
    rw [List.nil_append,
      List.splitOn_eq_singleton (List.not_mem_cons_of_ne_of_not_mem (by decide) free)]
    rfl
  | cons c name ih =>
    rw [List.cons_append, List.splitOn_cons_eq_if_modifyHead, List.splitOn_cons_eq_if_modifyHead]
    split
    · rw [List.map_cons, List.map_cons, ih]
    · -- the names agree in their first piece, and so they do with one more character in front of it
      obtain ⟨p, ps, long⟩ :=
        List.exists_cons_of_ne_nil (List.splitOn_ne_nil '&' (name ++ '=' :: rest))
      obtain ⟨q, qs, short⟩ := List.exists_cons_of_ne_nil (List.splitOn_ne_nil '&' name)
      rw [long, short, List.map_cons, List.map_cons, List.cons.injEq] at ih
      have first : nameOf (c :: p) = nameOf (c :: q) := by
        have begins := ih.1
        unfold nameOf at begins ⊢
        rw [List.takeWhile_cons, List.takeWhile_cons, begins]
      rw [long, short, List.modifyHead_cons, List.modifyHead_cons, List.map_cons, List.map_cons,
        first, ih.2]

end Names

section Setting

theorem mem_setIn (h : s ∈ setIn name new segments) : s = new ∨ s ∈ segments := by
  induction segments with
  | nil => exact .inl (List.mem_singleton.mp h)
  | cons r segments ih =>
    unfold setIn at h
    split at h
    · rcases List.mem_cons.mp h with same | h
      · exact .inl same
      · exact .inr (List.mem_cons_of_mem _ (List.mem_of_mem_filter h))
    · rcases List.mem_cons.mp h with same | h
      · exact .inr (same ▸ List.mem_cons_self ..)
      · exact (ih h).imp_right (List.mem_cons_of_mem _)

theorem setIn_of_absent (absent : ∀ s ∈ segments, nameOf s ≠ name) :
    setIn name new segments = segments ++ [new] := by
  induction segments with
  | nil => rfl
  | cons r segments ih =>
    obtain ⟨other, rest⟩ := List.forall_mem_cons.mp absent
    rw [setIn, if_neg (by simpa using other), ih rest, List.cons_append]

theorem find?_setIn_self (named : nameOf new = name) :
    (setIn name new segments).find? (fun s => nameOf s == name) = some new := by
  induction segments with
  | nil => simp [setIn, named]
  | cons r segments ih =>
    unfold setIn
    split
    · simp [named]
    · rename_i other
      rw [List.find?_cons, Bool.eq_false_iff.mpr other, ih]

theorem find?_setIn_of_ne (named : nameOf new = name) (other : m ≠ name) :
    (setIn name new segments).find? (fun s => nameOf s == m) = segments.find? fun s =>
      nameOf s == m := by
  have passed : (nameOf new == m) = false := by simpa [named] using other.symm
  induction segments with
  | nil => simp [setIn, passed]
  | cons r segments ih =>
    unfold setIn
    split
    · rename_i same
      have skipped : (nameOf r == m) = false := by
        rw [beq_iff_eq.mp same]
        simpa using other.symm
      rw [List.find?_cons, List.find?_cons, passed, skipped, List.find?_filter]
      dsimp only
      congr 1
      funext s
      by_cases found : nameOf s = m <;> simp [found, other]
    · rw [List.find?_cons, List.find?_cons, ih]

end Setting

section Parameters

variable {q : Query} {url value : List Char}

def Names (q : Query) (name : List Char) : Prop := ∃ s ∈ q.segments, nameOf s = name

theorem get?_eq_none_iff : q.get? m = none ↔ ¬ q.Names m := by
  rw [get?, Option.map_eq_none_iff, List.find?_eq_none]
  simp [Names]

theorem get?_append (path : List Char) (first rest : List (List Char)) :
    get? ⟨path, first ++ rest⟩ m = (get? ⟨path, first⟩ m).or (get? ⟨path, rest⟩ m) := by
  unfold get?
  rw [List.find?_append, Option.map_or]

theorem isPlain_of_names (h : (ofText url).Names m) : IsPlain m := by
  obtain ⟨s, hs, rfl⟩ := h
  exact isPlain_nameOf ((ofText_wellFormed url).segments s hs)

theorem ofText_set_of_isPlain (plain : IsPlain name) :
    ofText ((ofText url).set name value).text = (ofText url).set name value := by
  refine WellFormed.ofText_text ⟨(ofText_wellFormed url).path, fun s hs => ?_⟩
  rcases mem_setIn hs with rfl | old
  · have free := Percent.separator_not_mem_encodeForm value
    simp only [segment, List.mem_append, List.mem_cons, not_or]
    exact ⟨plain.1, by decide, free⟩
  · exact (ofText_wellFormed url).segments s old

theorem get?_set_self (plain : IsPlain name) :
    (q.set name value).get? name = some (Percent.encodeForm value) := by
  unfold get? set segment
  rw [find?_setIn_self (nameOf_append plain.2 _), Option.map_some, valueOf_append plain.2]

theorem get?_set_of_ne (plain : IsPlain name) (other : m ≠ name) :
    (q.set name value).get? m = q.get? m := by
  unfold get? set segment
  rw [find?_setIn_of_ne (nameOf_append plain.2 _) other]

theorem ofText_set_of_not_isPlain (cut : ¬ IsPlain name) :
    ofText ((ofText url).set name value).text =
    ⟨(ofText url).path, (ofText url).segments ++ (segment name value).splitOn '&'⟩ := by
  have absent : ∀ s ∈ (ofText url).segments, nameOf s ≠ name :=
    fun s hs same => cut (isPlain_of_names ⟨s, hs, same⟩)
  have whole : (ofText url).segments.flatMap (List.splitOn '&') = (ofText url).segments :=
    congrArg segments ((Query.ofText_text (ofText_wellFormed url).path).symm.trans
      (ofText_wellFormed url).ofText_text)
  have read := Query.ofText_text (q := (ofText url).set name value) (ofText_wellFormed url).path
  rw [read, set, setIn_of_absent absent, List.flatMap_append, whole, List.flatMap_singleton]

theorem names_pieces {path : List Char} :
    Names ⟨path, (segment name value).splitOn '&'⟩ m ↔ ∃ p ∈ name.splitOn '&', nameOf p = m := by
  have names :=
    congrArg (m ∈ ·) (map_nameOf_splitOn (Percent.separator_not_mem_encodeForm value) name)
  rw [eq_iff_iff, List.mem_map, List.mem_map] at names
  exact names

theorem get?_others_iff (url name value : List Char) :
    (∀ m, m ≠ name → (ofText ((ofText url).set name value).text).get? m = (ofText url).get? m) ↔
    IsPlain name ∨ ∀ p ∈ name.splitOn '&', (ofText url).Names (nameOf p) := by
  by_cases plain : IsPlain name
  · refine iff_of_true (fun m other => ?_) (.inl plain)
    rw [ofText_set_of_isPlain plain, get?_set_of_ne plain other]
  · rw [or_iff_right plain, ofText_set_of_not_isPlain plain]
    constructor
    · intro kept p hp
      have piece : IsPlain (nameOf p) := isPlain_nameOf (Pieces.not_mem_of_mem_splitOn hp)
      have same := kept (nameOf p) fun same => plain (same ▸ piece)
      by_contra missing
      rw [get?_append, get?_eq_none_iff.mpr missing, Option.none_or] at same
      exact get?_eq_none_iff.mp same (names_pieces.mpr ⟨p, hp, rfl⟩)
    · intro there m _
      rw [get?_append]
      by_cases found : (ofText url).Names m
      · have some : (ofText url).get? m ≠ none := fun none => get?_eq_none_iff.mp none found
        exact Option.or_of_isSome (Option.isSome_iff_ne_none.mpr some)
      · have none : ¬ Names ⟨(ofText url).path, (segment name value).splitOn '&'⟩ m :=
          fun piece => by
            obtain ⟨p, hp, rfl⟩ := names_pieces.mp piece
            exact found (there p hp)
        rw [get?_eq_none_iff.mpr none, Option.or_none]

end Parameters

end Query

namespace Builtin

open Percent Query

def found (o : Option (List Char)) : Value := (o.map .ofChars).getD .unsetString

theorem found_injective {o o' : Option (List Char)} (same : found o = found o') : o = o' := by
  have set (s : List Char) : found none ≠ found (some s) := fun same => by
    have unset := congrArg Value.isUnset same
    cases unset
  cases o with
  | none =>
    cases o' with
    | none => rfl
    | some s => exact absurd same (set s)
  | some s =>
    cases o' with
    | none => exact absurd same.symm (set s)
    | some t =>
      injection same with same
      exact congrArg some (String.ofList_injective same)

section Calls

variable (url name value : String) (a b c : Marks)

theorem answers_querySet :
    Answers "querystring.set" [.string url a, .string name b, .string value c]
    (.ofChars ((ofText url.toList).set name.toList value.toList).text) :=
  ⟨_, rfl, fun _ _ => rfl⟩

theorem answers_queryGet : Answers "querystring.get" [.string url a, .string name b]
    (found ((ofText url.toList).get? name.toList)) :=
  ⟨_, rfl, fun _ _ => rfl⟩

theorem answers_queryGet_ofChars (url : List Char) :
    Answers "querystring.get" [.ofChars url, .string name b]
      (found ((ofText url).get? name.toList)) := by
  have get := answers_queryGet (String.ofList url) name .plain b
  rwa [String.toList_ofList] at get

theorem answers_urldecode_found (o : Option (List Char)) :
    Answers "urldecode" [found o] (.ofChars (Percent.decode (o.getD []))) := by
  cases o with
  | none => exact answers_urldecode "" .unset
  | some s =>
    have decoded := answers_urldecode (String.ofList s) .plain
    rwa [String.toList_ofList] at decoded

/-- What a parameter reads as after it was set: nothing is found under a name with separators. -/
def readBack (name value : List Char) : List Char :=
  if IsPlain name then value.map plusForBlank else []

theorem readBack_eq_iff {name value : List Char} :
    readBack name value = value ↔ (IsPlain name ∨ value = []) ∧ ' ' ∉ value := by
  unfold readBack
  split
  · rename_i plain
    rw [map_plusForBlank_eq_iff, and_iff_right (.inl plain)]
  · rename_i cut
    rw [or_iff_right cut, eq_comm, iff_self_and]
    rintro rfl
    exact List.not_mem_nil

theorem answers_readBack (url name value : List Char) :
    Answers "urldecode" [found ((ofText ((ofText url).set name value).text).get? name)]
      (.ofChars (readBack name value)) := by
  unfold readBack
  split
  · rename_i plain
    rw [ofText_set_of_isPlain plain, get?_set_self plain, ← decode_encodeForm]
    exact answers_urldecode_found (some _)
  · rename_i cut
    rw [get?_eq_none_iff.mpr fun named => cut (isPlain_of_names named)]
    exact answers_urldecode_found none

theorem answers_same_iff (after : List Char) :
    (∃ w, Answers "querystring.get" [.ofChars after, .string name b] w ∧
      Answers "querystring.get" [.string url a, .string name b] w) ↔
    (ofText after).get? name.toList = (ofText url.toList).get? name.toList := by
  have first := answers_queryGet_ofChars name b after
  have second := answers_queryGet url name a b
  constructor
  · rintro ⟨w, hw, hw'⟩
    exact found_injective ((first.unique hw).trans (hw'.unique second))
  · intro same
    exact ⟨_, first, same ▸ second⟩

/-- A parameter whose name has no separators reads as the value that was set, with plus signs for
its blanks; under another name nothing is found. The other parameters keep their values exactly if
the name has no separators, or if the URL had all the names before that the separators cut out of
it. -/
theorem parameter_read_back : ∃ u t : String, ∃ v : Value,
    Answers "querystring.set" [.string url a, .string name b, .string value c] (.ofString u) ∧
    Answers "querystring.get" [.ofString u, .string name b] v ∧
    Answers "urldecode" [v] (.ofString t) ∧
    t.toList = readBack name.toList value.toList ∧
    (t = value ↔ (IsPlain name.toList ∨ value = "") ∧ ' ' ∉ value.toList) ∧
    ((∀ other, other ≠ name → ∃ w, Answers "querystring.get" [.ofString u, .string other b] w ∧
        Answers "querystring.get" [.string url a, .string other b] w) ↔
      IsPlain name.toList ∨ ∀ p ∈ name.toList.splitOn '&',
        (ofText url.toList).Names (nameOf p)) := by
  refine ⟨_, _, _, answers_querySet url name value a b c, answers_queryGet_ofChars name b _,
    answers_readBack _ _ _, String.toList_ofList, ?_, ?_⟩
  · rw [← String.toList_inj, String.toList_ofList, readBack_eq_iff, String.toList_eq_nil_iff]
  · rw [← get?_others_iff _ _ value.toList]
    constructor
    · intro kept m other
      have same := (answers_same_iff url _ a b _).mp
        (kept (String.ofList m) fun same => other (by rw [← same, String.toList_ofList]))
      rwa [String.toList_ofList] at same
    · intro kept other ne
      exact (answers_same_iff url other a b _).mpr
        (kept other.toList fun same => ne (String.toList_inj.mp same))

theorem parameter_read_back_marked : ∃ u : String, ∃ v : Value,
    Answers "querystring.set" [.ofString "/p?a=1&b=2&a=3", .ofString "a", .ofString "50% ü"]
      (.ofString u) ∧
    Answers "querystring.get" [.ofString u, .ofString "a"] v ∧
      Answers "urldecode" [v] (.ofString "50%+ü") ∧
    ∃ w, Answers "querystring.get" [.ofString u, .ofString "b"] w ∧
      Answers "querystring.get" [.ofString "/p?a=1&b=2&a=3", .ofString "b"] w := by
  obtain ⟨u, t, v, set, get, decoded, text, -, others⟩ :=
    parameter_read_back "/p?a=1&b=2&a=3" "a" "50% ü" .plain .plain .plain
  have written : t = "50%+ü" := String.toList_inj.mp (text.trans (by decide))
  exact ⟨u, v, set, get, written ▸ decoded, others.mpr (.inl (by decide)) "b" (by decide)⟩

/-- A blank reads as a plus sign. Under a name with an equals sign nothing is found, and a name with
an ampersand brings in another parameter. -/
theorem parameter_misread :
    (∃ u v, Answers "querystring.set" [.ofString "/p", .ofString "a", .ofString "x y"] u ∧
      Answers "querystring.get" [u, .ofString "a"] v ∧
      ¬ Answers "urldecode" [v] (.ofString "x y")) ∧
    (∃ u v, Answers "querystring.set" [.ofString "/p", .ofString "a=b", .ofString "v"] u ∧
      Answers "querystring.get" [u, .ofString "a=b"] v ∧
      ¬ Answers "urldecode" [v] (.ofString "v")) ∧
    ∃ u, Answers "querystring.set" [.ofString "/p", .ofString "a&b", .ofString "v"] u ∧
      ¬ ∃ w, Answers "querystring.get" [u, .ofString "b"] w ∧
      Answers "querystring.get" [.ofString "/p", .ofString "b"] w := by
  have unread (url name value : String) (other : readBack name.toList value.toList ≠ value.toList) :
      ∃ u v, Answers "querystring.set" [.ofString url, .ofString name, .ofString value] u ∧
        Answers "querystring.get" [u, .ofString name] v ∧
        ¬ Answers "urldecode" [v] (.ofString value) := by
    refine ⟨_, _, answers_querySet url name value .plain .plain .plain,
      answers_queryGet_ofChars name .plain _, fun read => ?_⟩
    have same := (answers_readBack url.toList name.toList value.toList).unique read
    injection same with same
    exact other ((String.toList_ofList).symm.trans (congrArg String.toList same))
  refine ⟨unread "/p" "a" "x y" (by decide), unread "/p" "a=b" "v" (by decide),
    _, answers_querySet "/p" "a&b" "v" .plain .plain .plain, fun same => ?_⟩
  have same := (answers_same_iff "/p" "b" .plain .plain _).mp same
  revert same
  decide

end Calls

end Builtin

end EdgeCache
