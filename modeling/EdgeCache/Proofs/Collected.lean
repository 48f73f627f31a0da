import EdgeCache.Proofs.Atomic
import EdgeCache.Proofs.HeaderStore
import Mathlib.Data.List.Flatten

/-! What is left of the values of a header that are collected. Those that do not show as text are
dropped as soon as two others do; one by itself is left as it is. -/

namespace EdgeCache

section Joins

variable {α : Type} {p : List α → Bool} {l : List (List α)}

theorem length_intercalate (s : List α) (l : List (List α)) :
    (s.intercalate l).length = l.flatten.length + (l.length - 1) * s.length := by
  induction l with
  | nil => simp
  | cons x xs ih =>
    cases xs with
    | nil => simp
    | cons y ys =>
      rw [List.intercalate_cons_cons, List.length_append, List.length_append, ih]
      simp only [List.flatten_cons, List.length_append, List.length_cons, Nat.add_sub_cancel,
        Nat.succ_mul]
      omega

theorem all_of_length_flatten_le (empty : p [] = true)
    (h : l.flatten.length ≤ (l.filter p).flatten.length) :
    ∀ x ∈ l, p x = true := by
  induction l with
  | nil => nofun
  | cons x xs ih =>
    rw [List.flatten_cons, List.length_append] at h
    by_cases kept : p x = true
    · rw [List.filter_cons_of_pos kept, List.flatten_cons, List.length_append] at h
      exact List.forall_mem_cons.mpr ⟨kept, ih (by omega)⟩
    · rw [List.filter_cons_of_neg kept] at h
      have rest := (List.filter_sublist (p := p) (l := xs)).flatten.length_le
      have none : x = [] := List.length_eq_zero_iff.mp (by omega)
      exact absurd (none ▸ empty) kept

theorem intercalate_filter_iff (s : List α) (empty : p [] = true) :
    s.intercalate (l.filter p) = s.intercalate l ↔ ∀ x ∈ l, p x = true := by
  constructor
  · intro same
    have lengths := congrArg List.length same
    rw [length_intercalate, length_intercalate] at lengths
    have few : (l.filter p).length - 1 ≤ l.length - 1 :=
      Nat.sub_le_sub_right (List.length_filter_le p l) 1
    have separators := Nat.mul_le_mul_right s.length few
    exact all_of_length_flatten_le empty (by omega)
  · intro all
    rw [List.filter_eq_self.mpr all]

theorem own_join_iff (s : List α) (filled : l ≠ []) (few : (l.filter p).length < 2) :
    l = [s.intercalate l] ↔ l.length = 1 ∨ ∀ x ∈ l, p x = true := by
  have one_iff : l = [s.intercalate l] ↔ l.length = 1 := by
    refine ⟨fun one => congrArg List.length one, fun one => ?_⟩
    obtain ⟨x, single⟩ := List.length_eq_one_iff.mp one
    rw [single, List.intercalate_singleton]
  refine one_iff.trans ⟨.inl, fun all => all.elim id fun all => ?_⟩
  rw [List.filter_eq_self.mpr all] at few
  have := List.length_pos_iff.mpr filled
  omega

theorem kept_join_iff (s : List α) (empty : p [] = true) (several : 2 ≤ (l.filter p).length) :
    [s.intercalate (l.filter p)] = [s.intercalate l] ↔ l.length = 1 ∨ ∀ x ∈ l, p x = true := by
  have fewer := List.length_filter_le p l
  rw [List.singleton_inj, intercalate_filter_iff s empty, or_iff_right (by omega)]

theorem ofString_intercalate (separator : String) (ts : List String) :
    Utf8.ofString (String.intercalate separator ts) =
      (Utf8.ofString separator).intercalate (ts.map Utf8.ofString) := by
  induction ts with
  | nil =>
    rw [String.intercalate_nil]
    rfl
  | cons t ts ih =>
    cases ts with
    | nil => simp
    | cons u us =>
      rw [String.intercalate_cons_cons, ofString_append, ofString_append, ih]
      simp only [List.map_cons, List.intercalate_cons_cons]

end Joins

namespace Builtin

variable {env : Environment} {c d : Context} {m : MessageName} {f : Spelling} {separator : String}

def shown (c : Context) (m : MessageName) (f : Spelling) : List (List UInt8) :=
  ((c.headers m).store f.key).filter (·.all HeaderValue.isVisible)

theorem texts_eq_shown (c : Context) (m : MessageName) (f : Spelling) :
    (((c.headers m).values f.key).filterMap HeaderValue.text?).map Utf8.ofString = shown c m f := by
  unfold shown Headers.store
  induction (c.headers m).values f.key with
  | nil => rfl
  | cons v vs ih =>
    by_cases visible : v.bytes.all HeaderValue.isVisible = true
    · obtain ⟨text, found⟩ := text?_of_visible visible
      rw [List.filterMap_cons_some found, List.map_cons, List.map_cons, List.filter_cons,
        if_pos visible, ofString_of_text? found, ih]
    · have hidden : v.text? = none := if_neg visible
      rw [List.filterMap_cons_none hidden, List.map_cons, List.filter_cons, if_neg visible, ih]

theorem collectHeader_cases (h : collectHeader c (fieldName m f.text) separator = .ok d) :
    ((shown c m f).length < 2 ∧ d = c) ∨
      (2 ≤ (shown c m f).length ∧ ∃ headers, d = c.setHeaders headers m ∧
        headers.store = Function.update (c.headers m).store f.key
          [(Utf8.ofString separator).intercalate (shown c m f)]) := by
  unfold collectHeader at h
  rw [headerOf?_of_spelling] at h
  simp only [headerName_of_spelling, bind, Except.bind, pure, Except.pure] at h
  -- the texts that are counted and joined have the bytes of the values that show
  have texts := texts_eq_shown c m f
  have many := congrArg List.length texts
  rw [List.length_map] at many
  split at h
  · cases h
    exact .inl ⟨by omega, rfl⟩
  · rcases headerValue_cases f.text (String.intercalate separator
      (((c.headers m).values f.key).filterMap HeaderValue.text?)) with ⟨-, x, hx, bytes⟩
      | ⟨-, e, he⟩
    · rw [hx] at h
      cases h
      refine .inr ⟨by omega, _, rfl, ?_⟩
      rw [Headers.store_insert, bytes, ofString_intercalate, texts]
    · rw [he] at h
      cases h

theorem collector_mem : collector ∈ library := List.mem_of_find?_eq_some ofName_collect

theorem collected_of_run {args : List Value} {v : Value} (h : collector.run env args c = .ok v d) :
    collected c args = .ok d := by
  have ran : collect env args c = .ok v d := body_of_run h
  rw [collect_eq] at ran
  split at ran <;> cases ran
  assumption

/-- Collecting a header that is there either fails and changes nothing, or leaves one value that is
the join of all in their order, exactly if there was one value only or all of them show as text. It
changes no other header. -/
theorem collect_joins_iff (env : Environment) {args : List Value}
    (named : args[0]? = some (.ident (fieldName m f.text)))
    (present : (c.headers m).store f.key ≠ []) :
    let old := (c.headers m).store f.key
    let separator := Utf8.ofString (((args[1]?).bind Value.string?).getD ", ")
    (∀ v d, collector.run env args c = .ok v d →
      ((d.headers m).store f.key = [separator.intercalate old] ↔
        old.length = 1 ∨ ∀ bytes ∈ old, bytes.all HeaderValue.isVisible = true) ∧
      ∀ n k, n ≠ m ∨ k ≠ f.key → (d.headers n).store k = (c.headers n).store k) ∧
    ∀ e d, collector.run env args c = .error e d → d = c := by
  intro old separator
  refine ⟨fun v d ran => ?_, run_atomic collector_mem env args c⟩
  have asked : Arguments.name args 0 = fieldName m f.text := by
    unfold Arguments.name
    rw [named]
  have collected := collected_of_run ran
  unfold Builtin.collected at collected
  rw [asked] at collected
  rcases collectHeader_cases collected with ⟨few, rfl⟩ | ⟨several, headers, rfl, stored⟩
  · exact ⟨own_join_iff separator present few, fun _ _ _ => rfl⟩
  · constructor
    · rw [c.headers_setHeaders, if_pos rfl, stored, Function.update_self]
      exact kept_join_iff separator rfl several
    · intro n k other
      rw [c.headers_setHeaders]
      split
      · rename_i same
        rw [stored, Function.update_of_ne (other.resolve_left fun ne => ne same), same]
      · rfl

def listing (second : HeaderValue) : Context :=
  Context.received.setHeaders (fieldOf [valueOne, second, valueTwo]) .request

theorem collect_joins_iff_plain :
    ∃ v d, collector.run (.of .empty .standard) [.ident "req.http.X-A", .ofString "; "]
        (listing ⟨[0x61, 0x62], by decide⟩) = .ok v d ∧
      (d.headers .request).store ⟨"x-a"⟩ = [Utf8.ofString "1; ab; 2"] := by
  have ran : collector.run (.of .empty .standard) [.ident "req.http.X-A", .ofString "; "]
    (listing ⟨[0x61, 0x62], by decide⟩) = .ok _ _ := rfl
  have joined :=
    ((collect_joins_iff (m := .request) (f := ⟨"X-A", ⟨"x-a"⟩, by decide⟩)
      (.of .empty .standard) rfl
      (by decide)).1 _ _ ran).1.mpr (.inr (by decide))
  exact ⟨_, _, ran, joined⟩

/-- Of three values the one beyond ASCII is dropped. -/
theorem accented_value_dropped :
    ∃ d, collector.run (.of .empty .standard) [.ident "req.http.X-A"]
      (listing ⟨[0xC3, 0xA9], by decide⟩) =
        .ok .null d ∧
      (d.headers .request).store ⟨"x-a"⟩ = [Utf8.ofString "1, 2"] ∧
      (d.headers .request).store ⟨"x-a"⟩ ≠ [Utf8.ofString "1, é, 2"] :=
  ⟨_, rfl, by decide, by decide⟩

end Builtin

end EdgeCache
