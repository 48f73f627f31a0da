import EdgeCache.Proofs.Answers
import Mathlib.Data.Char
import Mathlib.Data.List.Lex
import Mathlib.Data.List.TakeWhile
import Mathlib.Data.Prod.Lex

/-! The segments of the query of a URL. What is written of some segments is read as just those, so
that filters divide the segments of a URL, and sorting gives one text for every order in which they
may stand. -/

namespace EdgeCache

namespace Pieces

variable {sep : Char} {s before after : List Char}

theorem splitOn_eq (sep : Char) (s : List Char) : splitOn sep s = s.splitOn sep := by
  induction s with
  | nil => rfl
  | cons c s ih =>
    rw [List.splitOn_cons_eq_if_modifyHead, splitOn, ih]
    by_cases same : c = sep
    · rw [if_pos same, if_pos (beq_iff_eq.mpr same)]
    · rw [if_neg same, if_neg (by simpa using same)]
      obtain ⟨p, ps, split⟩ := List.exists_cons_of_ne_nil (List.splitOn_ne_nil sep s)
      rw [split]
      rfl

theorem join_eq (sep : List Char) (ps : List (List Char)) : join sep ps = sep.intercalate ps := by
  induction ps with
  | nil => rfl
  | cons p ps ih =>
    cases ps with
    | nil => simp [join]
    | cons q qs => rw [join, ih, List.intercalate_cons_cons]

theorem not_mem_of_mem_splitOn (h : before ∈ s.splitOn sep) : sep ∉ before := by
  induction s generalizing before with
  | nil =>
    rw [List.splitOn_nil, List.mem_singleton] at h
    rw [h]
    exact List.not_mem_nil
  | cons c s ih =>
    rw [List.splitOn_cons_eq_if_modifyHead] at h
    split at h
    · rcases List.mem_cons.mp h with rfl | h
      · exact List.not_mem_nil
      · exact ih h
    · rename_i other
      obtain ⟨p, ps, split⟩ := List.exists_cons_of_ne_nil (List.splitOn_ne_nil sep s)
      rw [split] at h
      rcases List.mem_cons.mp h with rfl | h
      · have rest : sep ∉ p := ih (split ▸ List.mem_cons_self ..)
        exact List.not_mem_cons_of_ne_of_not_mem (fun same => other (beq_iff_eq.mpr same.symm)) rest
      · exact ih (split ▸ List.mem_cons_of_mem _ h)

theorem splitOn_intercalate_flatMap {ps : List (List Char)} (filled : ps ≠ []) :
    ([sep].intercalate ps).splitOn sep = ps.flatMap (List.splitOn sep) := by
  induction ps with
  | nil => exact absurd rfl filled
  | cons p ps ih =>
    cases ps with
    | nil => simp
    | cons q qs =>
      rw [List.intercalate_cons_cons, List.append_assoc, List.singleton_append,
        List.splitOn_append_cons_self, ih (List.cons_ne_nil _ _)]
      rfl

theorem takeWhile_of_append (free : sep ∉ before) (after : List Char) :
    (before ++ sep :: after).takeWhile (· != sep) = before := by
  rw [List.takeWhile_append_of_pos fun c hc =>
    by simpa using fun same : c = sep => free (same ▸ hc)]
  simp

theorem cutAt?_of_append (free : sep ∉ before) :
    cutAt? sep (before ++ sep :: after) = some (before, after) := by
  unfold cutAt?
  dsimp only
  rw [takeWhile_of_append free, List.drop_left]

theorem cutAt?_of_not_mem (free : sep ∉ s) : cutAt? sep s = none := by
  have all : s.takeWhile (· != sep) = s :=
    List.takeWhile_eq_self_iff.mpr fun c hc => by simpa using fun same : c = sep => free (same ▸ hc)
  unfold cutAt?
  dsimp only
  rw [all, List.drop_length]

end Pieces

namespace Query

variable {q : Query} {url : List Char}

structure WellFormed (q : Query) : Prop where
  path : '?' ∉ q.path
  segments : ∀ s ∈ q.segments, '&' ∉ s

theorem ofText_of_append {path query : List Char} (free : '?' ∉ path) :
    ofText (path ++ '?' :: query) = ⟨path, query.splitOn '&'⟩ := by
  unfold ofText
  rw [Pieces.cutAt?_of_append free]
  dsimp only
  rw [Pieces.splitOn_eq]

theorem ofText_of_not_mem (free : '?' ∉ url) : ofText url = ⟨url, []⟩ := by
  unfold ofText
  rw [Pieces.cutAt?_of_not_mem free]

theorem ofText_cases (url : List Char) :
    ('?' ∉ url ∧ ofText url = ⟨url, []⟩) ∨
      ∃ path query, url = path ++ '?' :: query ∧ '?' ∉ path ∧
      ofText url = ⟨path, query.splitOn '&'⟩ := by
  by_cases free : '?' ∈ url
  · obtain ⟨path, query, rfl, first⟩ := List.eq_append_cons_of_mem free
    exact .inr ⟨path, query, rfl, first, ofText_of_append first⟩
  · exact .inl ⟨free, ofText_of_not_mem free⟩

theorem ofText_wellFormed (url : List Char) : (ofText url).WellFormed := by
  rcases ofText_cases url with ⟨free, read⟩ | ⟨path, query, -, free, read⟩ <;> rw [read]
  · exact ⟨free, nofun⟩
  · exact ⟨free, fun s => Pieces.not_mem_of_mem_splitOn⟩

theorem text_of_ne_nil {path : List Char} {segments : List (List Char)} (filled : segments ≠ []) :
    text ⟨path, segments⟩ = path ++ '?' :: ['&'].intercalate segments := by
  unfold text
  rw [if_neg (by simpa using filled), Pieces.join_eq]

theorem ofText_text (path : '?' ∉ q.path) :
    ofText q.text = ⟨q.path, q.segments.flatMap (List.splitOn '&')⟩ := by
  obtain ⟨p, segments⟩ := q
  by_cases filled : segments = []
  · subst filled
    exact ofText_of_not_mem path
  · rw [text_of_ne_nil filled, ofText_of_append path, Pieces.splitOn_intercalate_flatMap filled]

theorem WellFormed.ofText_text (h : q.WellFormed) : ofText q.text = q := by
  have whole : q.segments.flatMap (List.splitOn '&') = q.segments.flatMap fun s => [s] :=
    List.flatMap_congr fun s hs => List.splitOn_eq_singleton (h.segments s hs)
  rw [Query.ofText_text h.path, whole, List.flatMap_singleton']

theorem WellFormed.of_subset (h : q.WellFormed) {segments : List (List Char)}
    (some : segments ⊆ q.segments) :
    WellFormed ⟨q.path, segments⟩ :=
  ⟨h.path, fun s hs => h.segments s (some hs)⟩

section Filters

variable {p : List Char → Bool} {result chosen others : List Char}

/-- A URL is left with the segments whose names pass, as they were and in their order, and with
nothing of a query where there are none. -/
structure Keeps (p : List Char → Bool) (url result : List Char) : Prop where
  path : (ofText result).path = (ofText url).path
  segments : (ofText result).segments = (ofText url).segments.filter fun s => p (nameOf s)
  bare : (∀ s ∈ (ofText url).segments, p (nameOf s) = false) → '?' ∉ result

structure Divides (p : List Char → Bool) (url chosen others : List Char) : Prop where
  chosen : Keeps p url chosen
  others : Keeps (fun n => !p n) url others

theorem ofText_keep (p : List Char → Bool) (url : List Char) :
    ofText ((ofText url).keep p).text = (ofText url).keep p :=
  ((ofText_wellFormed url).of_subset List.filter_sublist.subset).ofText_text

theorem keeps (p : List Char → Bool) (url : List Char) :
    Keeps p url ((ofText url).keep p).text where
  path := by rw [ofText_keep]; rfl
  segments := by rw [ofText_keep]; rfl
  bare none := by
    have empty : (ofText url).keep p = ⟨(ofText url).path, []⟩ :=
      congrArg _ (List.filter_eq_nil_iff.mpr fun s hs => by simp [none s hs])
    rw [empty]
    exact (ofText_wellFormed url).path

theorem divides (p : List Char → Bool) (url : List Char) :
    Divides p url ((ofText url).keep p).text ((ofText url).keep fun n => !p n).text :=
  ⟨keeps p url, keeps _ url⟩

theorem keep_ofText_keep (p : List Char → Bool) (url : List Char) :
    (ofText ((ofText url).keep p).text).keep p = (ofText url).keep p := by
  rw [ofText_keep]
  simp [keep, List.filter_filter]

theorem clean_eq_keep (q : Query) : q.clean = q.keep fun n => !n.isEmpty := by
  have named (s : List Char) : (!s.isEmpty && s.head? != some '=') = !(nameOf s).isEmpty := by
    cases s with
    | nil => rfl
    | cons c s => by_cases sign : c = '=' <;> simp [nameOf, sign]
  exact congrArg (Query.mk q.path) (List.filter_congr fun s _ => named s)

end Filters

section Sorting

theorem atMost_iff (a b : List Char) : atMost a b = true ↔ a ≤ b := by
  induction a generalizing b with
  | nil => exact iff_of_true rfl (not_lt.mp (List.not_lt_nil b))
  | cons c a ih =>
    cases b with
    | nil => exact iff_of_false Bool.false_ne_true (not_le.mpr (List.nil_lt_cons c a))
    | cons d b =>
      have smaller : c.toNat < d.toNat ↔ c < d := Iff.rfl
      rw [atMost, Bool.or_eq_true, Bool.and_eq_true, decide_eq_true_eq, beq_iff_eq, ih, smaller,
        le_iff_lt_or_eq, le_iff_lt_or_eq, List.cons_lt_cons_iff, List.cons.injEq]
      tauto

def sortKey (segment : List Char) : List Char ×ₗ List Char := toLex (nameOf segment, segment)

theorem segmentAtMost_iff (a b : List Char) : segmentAtMost a b = true ↔ sortKey a ≤ sortKey b := by
  rw [sortKey, sortKey, Prod.Lex.toLex_le_toLex]
  unfold segmentAtMost
  by_cases same : nameOf a = nameOf b
  · rw [if_pos (beq_iff_eq.mpr same), atMost_iff, same]
    simp
  · rw [if_neg (by simpa using same), atMost_iff, le_iff_lt_or_eq]
    simp [same]

theorem segmentAtMost_antisymm {a b : List Char} (h : segmentAtMost a b = true)
    (h' : segmentAtMost b a = true) :
    a = b :=
  congrArg (fun k : List Char ×ₗ List Char => (ofLex k).2)
    (le_antisymm ((segmentAtMost_iff a b).mp h) ((segmentAtMost_iff b a).mp h'))

theorem pairwise_sort (q : Query) :
    q.sort.segments.Pairwise fun a b => segmentAtMost a b = true := by
  refine List.pairwise_mergeSort (fun a b c h h' => ?_) (fun a b => ?_) _
  · rw [segmentAtMost_iff] at h h' ⊢
    exact le_trans h h'
  · rw [Bool.or_eq_true, segmentAtMost_iff, segmentAtMost_iff]
    exact le_total _ _

theorem perm_sort (q : Query) : q.sort.segments.Perm q.segments := List.mergeSort_perm _ _

theorem sort_eq_of_perm {q r : Query} (path : q.path = r.path)
    (segments : q.segments.Perm r.segments) :
    q.sort = r.sort := by
  have same : q.sort.segments = r.sort.segments :=
    List.Perm.eq_of_pairwise (fun _ _ _ _ => segmentAtMost_antisymm) (pairwise_sort q)
      (pairwise_sort r)
      ((perm_sort q).trans (segments.trans (perm_sort r).symm))
  calc q.sort = ⟨q.path, q.sort.segments⟩ := rfl
    _ = ⟨r.path, r.sort.segments⟩ := by rw [path, same]
    _ = r.sort := rfl

theorem sort_sort (q : Query) : q.sort.sort = q.sort := sort_eq_of_perm rfl (perm_sort q)

theorem ofText_sort (url : List Char) : ofText (ofText url).sort.text = (ofText url).sort :=
  ((ofText_wellFormed url).of_subset (perm_sort _).subset).ofText_text

end Sorting

end Query

namespace Builtin

open Query

section Calls

variable (url : String) (m k : Marks)

theorem answers_filter (names : String) :
    Answers "querystring.filter" [.string url m, .string names k]
    (.ofChars ((ofText url.toList).keep fun n =>
      !(Pieces.splitOn filterSeparator names.toList).contains n).text) :=
  ⟨_, rfl, fun _ _ => rfl⟩

theorem answers_filterExcept (names : String) :
    Answers "querystring.filter_except" [.string url m, .string names k]
    (.ofChars ((ofText url.toList).keep fun n =>
      (Pieces.splitOn filterSeparator names.toList).contains n).text) :=
  ⟨_, rfl, fun _ _ => rfl⟩

theorem filterMatches_of_compiled {pattern : String} {p : Pattern}
    (compiled : Pattern.ofText pattern = .ok p) (kept : Bool) :
    filterMatches kept [.string url m, .string pattern k] =
      .ok (.ofChars ((ofText url.toList).keep fun n => p.isMatch (String.ofList n) ==
        kept).text) := by
  have second : Arguments.string [.string url m, .string pattern k] 1 = pattern := rfl
  unfold filterMatches
  dsimp only
  rw [second, compiled]
  rfl

theorem answers_regfilter {pattern : String} {p : Pattern}
    (compiled : Pattern.ofText pattern = .ok p) :
    Answers "querystring.regfilter" [.string url m, .string pattern k]
      (.ofChars ((ofText url.toList).keep fun n => !p.isMatch (String.ofList n)).text) := by
  have kept := filterMatches_of_compiled url m k compiled false
  simp only [beq_false] at kept
  exact answers_of_failing rfl rfl kept

theorem answers_regfilterExcept {pattern : String} {p : Pattern}
    (compiled : Pattern.ofText pattern = .ok p) :
    Answers "querystring.regfilter_except" [.string url m, .string pattern k]
      (.ofChars ((ofText url.toList).keep fun n => p.isMatch (String.ofList n)).text) := by
  have kept := filterMatches_of_compiled url m k compiled true
  simp only [beq_true] at kept
  exact answers_of_failing rfl rfl kept

theorem answers_clean :
    Answers "querystring.clean" [.string url m] (.ofChars (ofText url.toList).clean.text) :=
  ⟨_, rfl, fun _ _ => rfl⟩

theorem answers_sort :
    Answers "querystring.sort" [.string url m] (.ofChars (ofText url.toList).sort.text) :=
  ⟨_, rfl, fun _ _ => rfl⟩

/-- Filters by names and by patterns divide the segments of a URL over their two results, and a
filter by names finds nothing more to do in its own. Cleaning changes nothing that is clean, and
sorting nothing that is sorted; it keeps all segments, and it gives the same text for every other
order of them. -/
theorem segments_divided_and_sorted :
    (∀ names : String, ∃ others chosen : String,
      Answers "querystring.filter" [.string url m, .string names k] (.ofString others) ∧
      Answers "querystring.filter_except" [.string url m, .string names k] (.ofString chosen) ∧
      Divides (names.toList.splitOn filterSeparator).contains url.toList chosen.toList
        others.toList ∧
      Answers "querystring.filter" [.ofString others, .string names k] (.ofString others) ∧
      Answers "querystring.filter_except" [.ofString chosen, .string names k] (.ofString chosen)) ∧
    (∀ (pattern : String) (p : Pattern), Pattern.ofText pattern = .ok p → ∃ others chosen : String,
      Answers "querystring.regfilter" [.string url m, .string pattern k] (.ofString others) ∧
      Answers "querystring.regfilter_except" [.string url m, .string pattern k] (.ofString chosen) ∧
      Divides (fun n => p.isMatch (String.ofList n)) url.toList chosen.toList others.toList) ∧
    (∃ cleaned : String, Answers "querystring.clean" [.string url m] (.ofString cleaned) ∧
      Keeps (fun n => !n.isEmpty) url.toList cleaned.toList ∧
      Answers "querystring.clean" [.ofString cleaned] (.ofString cleaned)) ∧
    ∃ sorted : String, Answers "querystring.sort" [.string url m] (.ofString sorted) ∧
      Answers "querystring.sort" [.ofString sorted] (.ofString sorted) ∧
      (ofText sorted.toList).path = (ofText url.toList).path ∧
      (ofText sorted.toList).segments.Perm (ofText url.toList).segments ∧
      ∀ other : String, (ofText other.toList).path = (ofText url.toList).path →
        (ofText other.toList).segments.Perm (ofText url.toList).segments →
        Answers "querystring.sort" [.string other k] (.ofString sorted) := by
  refine ⟨fun names => ⟨_, _, answers_filter url m k names, answers_filterExcept url m k names, ?_,
    ?_, ?_⟩, fun pattern p compiled => ⟨_, _, answers_regfilter url m k compiled,
    answers_regfilterExcept url m k compiled, ?_⟩,
    ⟨_, answers_clean url m, ?_, ?_⟩,
    ⟨_, answers_sort url m, ?_, ?_, ?_, fun other path segments => ?_⟩⟩
  · rw [String.toList_ofList, String.toList_ofList, Pieces.splitOn_eq]
    exact divides _ _
  · refine (answers_filter (String.ofList _) .plain k names).iff.mpr ?_
    rw [String.toList_ofList, keep_ofText_keep]
    rfl
  · refine (answers_filterExcept (String.ofList _) .plain k names).iff.mpr ?_
    rw [String.toList_ofList, keep_ofText_keep]
    rfl
  · rw [String.toList_ofList, String.toList_ofList]
    exact divides _ _
  · rw [String.toList_ofList, clean_eq_keep]
    exact keeps _ _
  · refine (answers_clean (String.ofList _) .plain).iff.mpr ?_
    rw [String.toList_ofList, clean_eq_keep, clean_eq_keep, keep_ofText_keep]
    rfl
  · refine (answers_sort (String.ofList _) .plain).iff.mpr ?_
    rw [String.toList_ofList, ofText_sort, sort_sort]
    rfl
  · rw [String.toList_ofList, ofText_sort]
    rfl
  · rw [String.toList_ofList, ofText_sort]
    exact perm_sort _
  · have same := answers_sort other k
    rwa [sort_eq_of_perm path segments] at same

theorem segments_divided_and_sorted_mixed :
    (∃ others chosen : String,
      Answers "querystring.regfilter" [.ofString "/p?b=1&&a=2&b", .ofString "b"]
        (.ofString others) ∧
      Answers "querystring.regfilter_except" [.ofString "/p?b=1&&a=2&b", .ofString "b"]
        (.ofString chosen) ∧
      (ofText chosen.toList).segments = ["b=1".toList, "b".toList] ∧
      (ofText others.toList).segments = ["".toList, "a=2".toList]) ∧
    ∃ sorted : String, Answers "querystring.sort" [.ofString "/p?b=1&&a=2&b"] (.ofString sorted) ∧
      Answers "querystring.sort" [.ofString "/p?a=2&b&b=1&"] (.ofString sorted) := by
  obtain ⟨-, patterns, -, sorted, given, -, -, -, order⟩ :=
    segments_divided_and_sorted "/p?b=1&&a=2&b" .plain .plain
  refine ⟨?_, sorted, given, order "/p?a=2&b&b=1&" (by decide) (by decide)⟩
  obtain ⟨others, chosen, dropped, kept, divided⟩ := patterns "b" _ rfl
  refine ⟨others, chosen, dropped, kept, divided.chosen.segments.trans ?_,
    divided.others.segments.trans ?_⟩
  · rfl
  · rfl

end Calls

end Builtin

end EdgeCache
