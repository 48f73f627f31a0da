import EdgeCache.Proofs.Families
import EdgeCache.Variable.Resolver

/-! What the resolvers write. At every stage they have places for the names of the variables that
can be written and for no others, and what they write there is what the names stand for. -/

namespace EdgeCache

namespace Place

def toVariable : Place → Variable
  | slot s => .slot s
  | header m field => .header m field
  | «local» n => .local n
  | clientIdentity => .clientIdentity
  | method m => .method m
  | url m => .url m
  | status m => .status m
  | backend => .backend

def of? : Variable → Option Place
  | .slot s => some (.slot s)
  | .header m field => some (.header m field)
  | .local n => some (.local n)
  | .clientIdentity => some .clientIdentity
  | .method m => some (.method m)
  | .url m => some (.url m)
  | .status m => some (.status m)
  | .backend => some .backend
  | .group _ | .reading _ => none

theorem eq_of_of? {x : Variable} {p : Place} (h : of? x = some p) : x = p.toVariable := by
  cases x <;> cases h <;> rfl

theorem of?_toVariable (p : Place) : of? p.toVariable = some p := by
  cases p <;> rfl

theorem toVariable_injective : Function.Injective toVariable := by
  intro p q same
  have found := of?_toVariable p
  rw [same, of?_toVariable] at found
  exact (Option.some.inj found).symm

theorem eq_of_bind {o : Option Variable} {p : Place} (h : o.bind of? = some p) :
    o = some p.toVariable := by
  obtain ⟨x, rfl, placed⟩ := Option.bind_eq_some_iff.mp h
  rw [eq_of_of? placed]

end Place

theorem Pieces.eq_of_cutAtPart? {part s before after : List Char}
    (h : cutAtPart? part s = some (before, after)) :
    s = before ++ (part ++ after) := by
  induction s generalizing before with
  | nil =>
    unfold cutAtPart? at h
    split at h <;> cases h
    rename_i empty
    rw [List.isEmpty_iff.mp empty]
    rfl
  | cons c rest ih =>
    unfold cutAtPart? at h
    split at h
    · rename_i starts
      cases h
      obtain ⟨tail, ht⟩ := List.isPrefixOf_iff_prefix.mp starts
      rw [← ht, List.drop_left]
      rfl
    · obtain ⟨⟨front, back⟩, cut, same⟩ := Option.map_eq_some_iff.mp h
      cases same
      rw [ih cut]
      rfl

namespace Variable

variable {s : Scope} {name field : String} {m : MessageName} {x : Variable}

theorem eq_of_headerOf? (h : headerOf? name = some (m, field)) :
    name = m.text ++ (".http." ++ field) := by
  obtain ⟨⟨front, rest⟩, cut, h⟩ := Option.bind_eq_some_iff.mp h
  obtain ⟨n, found, h⟩ := Option.bind_eq_some_iff.mp h
  split at h <;> cases h
  have named : m.text = String.ofList front :=
    beq_iff_eq.mp
      (List.find?_some (p := fun m : MessageName => m.text == String.ofList front) found)
  rw [← String.toList_inj, Pieces.eq_of_cutAtPart? cut, named]
  simp only [String.toList_append, String.toList_ofList]

theorem family?_of_headerOf? (h : headerOf? name = some (m, field)) : family? name = none := by
  obtain rfl := eq_of_headerOf? h
  unfold family? after?
  rw [String.toList_append]
  cases m <;> rfl

end Variable

namespace Resolver

open Variable

variable {s : Scope} {name : String} {p : Place} {x : Variable} {r : Resolver}

def specials : List (String × Variable) :=
  (special .error).take 4 ++ ((special .log).take 4 ++
    (backendRequestTable ++ (backendResponseTable ++ (responseTable ++ objectTable))))

theorem special_subset (s : Scope) : special s ⊆ specials := by
  have error : special .error = (special .error).take 4 ++ objectTable := rfl
  have log : special .log = (special .log).take 4 ++ (responseTable ++ objectStatistics) := rfl
  have statistics : objectStatistics ⊆ objectTable := List.subset_append_right ..
  intro q hq
  have counted := @statistics q
  cases s with
  | unknown | recv | hash => cases hq
  | hit | miss | pass | fetch | deliver =>
    simp only [special, specials, List.mem_append] at hq ⊢
    grind
  | error =>
    rw [error] at hq
    simp only [specials, List.mem_append] at hq ⊢
    grind
  | log =>
    rw [log] at hq
    simp only [specials, List.mem_append] at hq ⊢
    grind

def everywhere : List (String × Place) := shared.places .unknown ++ firewall.places .unknown

theorem stage_known (s : Scope) :
    (stage.places s).all (fun q => (ofName? s q.1).bind Place.of? = some q.2) = true := by
  cases s <;> decide +kernel

theorem everywhere_known :
    everywhere.all (fun q => (specials.lookup q.1).isNone && (headerOf? q.1).isNone &&
      (ofName? .unknown q.1).bind Place.of? = some q.2) = true := by
  decide +kernel

theorem tables_noHeader : (specials ++ common).all (fun q => (headerOf? q.1).isNone) = true := by
  decide +kernel

theorem tables_placed (s : Scope) :
    (special s ++ Variable.shared).all (fun q =>
      !q.2.isWritable s || all.any fun r => ((r.places s).lookup q.1).isSome) = true := by
  cases s <;> decide +kernel

theorem mem_places (h : (r.places s).lookup name = some p) : (name, p) ∈ r.places s := by
  obtain ⟨front, back, same, -⟩ := List.lookup_eq_some_iff.mp h
  simp [same]

theorem lookup_of_noHeader {table : List (String × Variable)} {m : MessageName} {field : String}
    (listed : table ⊆ specials ++ common) (h : headerOf? name = some (m, field)) :
    table.lookup name = none := by
  cases found : table.lookup name with
  | none => rfl
  | some x =>
    have unlike := List.all_eq_true.mp tables_noHeader _ (listed (mem_of_lookup found))
    rw [h] at unlike
    cases unlike

theorem lookup_of_subset {table more : List (String × Variable)} (h : table ⊆ more)
    (apart : more.lookup name = none) :
    table.lookup name = none := by
  cases found : table.lookup name with
  | none => rfl
  | some x =>
    have absent := List.lookup_eq_none_iff.mp apart _ (h (mem_of_lookup found))
    simp at absent

theorem ofName?_of_headerOf? {m : MessageName} {field : String}
    (h : headerOf? name = some (m, field)) :
    ofName? s name = if (readableMessages s).contains m then some (.header m field) else none := by
  have special : (special s).lookup name = none :=
    lookup_of_noHeader (List.subset_append_of_subset_left _ (special_subset s)) h
  unfold ofName?
  rw [special, lookup_of_noHeader (List.subset_append_right ..) h, family?_of_headerOf? h, h]

theorem ofName?_header {m : MessageName} {field : String} (h : headerOf? name = some (m, field))
    (readable : (readableMessages s).contains m = true) : ofName? s name = some (.header m field) :=
  (ofName?_of_headerOf? h).trans (if_pos readable)

theorem ofName?_apart (apart : specials.lookup name = none) (noHeader : headerOf? name = none) :
    ofName? s name = ofName? .unknown name := by
  unfold ofName?
  rw [lookup_of_subset (special_subset s) apart, noHeader]
  rfl

theorem readable_of_messages {m : MessageName} (hr : r ∈ all)
    (h : (r.messages s).contains m = true) :
    (readableMessages s).contains m = true ∧ (writableMessages s).contains m = true := by
  simp only [all, List.mem_cons, List.not_mem_nil, or_false] at hr
  rcases hr with rfl | rfl | rfl | rfl <;> cases s <;> cases m <;> cases h <;> exact ⟨rfl, rfl⟩

theorem messages_of_writable {m : MessageName} (h : (writableMessages s).contains m = true) :
    (stage.messages s).contains m = true ∨ (shared.messages s).contains m = true := by
  cases s <;> cases m <;> cases h <;> first | exact .inl rfl | exact .inr rfl

theorem places_writable (hr : r ∈ all) :
    (r.places s).all (fun q => q.2.toVariable.isWritable s) = true := by
  simp only [all, List.mem_cons, List.not_mem_nil, or_false] at hr
  rcases hr with rfl | rfl | rfl | rfl <;> cases s <;> decide

theorem places_known (hr : r ∈ all) : ∀ q ∈ r.places s, ofName? s q.1 = some q.2.toVariable := by
  have known : ∀ q ∈ everywhere, ofName? s q.1 = some q.2.toVariable := by
    intro q hq
    have listed := List.all_eq_true.mp everywhere_known q hq
    simp only [Bool.and_eq_true, Option.isNone_iff_eq_none, decide_eq_true_eq] at listed
    obtain ⟨⟨apart, noHeader⟩, placed⟩ := listed
    rw [ofName?_apart apart noHeader, Place.eq_of_bind placed]
  simp only [all, List.mem_cons, List.not_mem_nil, or_false] at hr
  rcases hr with rfl | rfl | rfl | rfl <;> intro q hq
  · exact Place.eq_of_bind (of_decide_eq_true (List.all_eq_true.mp (stage_known s) q hq))
  · exact known q (List.mem_append_left _ hq)
  · exact known q (List.mem_append_right _ hq)
  · cases hq

theorem ofName?_of_place? (hr : r ∈ all) (h : r.place? s name = some p) :
    ofName? s name = some p.toVariable ∧ p.toVariable.isWritable s = true := by
  unfold place? at h
  split at h
  · rename_i q found
    cases h
    have listed := mem_places found
    exact ⟨places_known hr _ listed, List.all_eq_true.mp (places_writable hr) _ listed⟩
  · split at h
    · rename_i isLocal
      cases h
      rw [Bool.and_eq_true] at isLocal
      exact ⟨ofName?_local isLocal.2, rfl⟩
    · split at h
      · rename_i m field named
        split at h <;> cases h
        obtain ⟨readable, writable⟩ := readable_of_messages hr ‹_›
        exact ⟨ofName?_header named readable, writable⟩
      · cases h

theorem place?_of_lookup (h : ((r.places s).lookup name).isSome = true) :
    (r.place? s name).isSome = true := by
  unfold place?
  split
  · rfl
  · rename_i none
    rw [none] at h
    cases h

theorem place?_of_isLocal (h : isLocal name = true) : (shared.place? s name).isSome = true := by
  unfold place?
  split
  · rfl
  · rw [if_pos (show (shared.locals && (after? "var." name).isSome) = true from h)]
    rfl

theorem place?_of_header {m : MessageName} {field : String}
    (named : headerOf? name = some (m, field)) (h : (r.messages s).contains m = true) :
    (r.place? s name).isSome = true := by
  unfold place?
  split
  · rfl
  · split
    · rfl
    · rw [named]
      dsimp only
      rw [if_pos h]
      rfl

theorem place?_of_ofName? (h : ofName? s name = some x) (hx : x.isWritable s = true) :
    ∃ r ∈ all, (r.place? s name).isSome = true := by
  have ofTables (listed : (name, x) ∈ special s ++ Variable.shared) :
      ∃ r ∈ all, (r.place? s name).isSome = true := by
    have placed := List.all_eq_true.mp (tables_placed s) _ listed
    rw [hx] at placed
    obtain ⟨r, hr, found⟩ := List.any_eq_true.mp placed
    exact ⟨r, hr, place?_of_lookup found⟩
  have ofStage (found : (stage.place? s name).isSome = true) :
      ∃ r ∈ all, (r.place? s name).isSome = true :=
    ⟨stage, by simp [all], found⟩
  have ofShared (found : (shared.place? s name).isSome = true) :
      ∃ r ∈ all, (r.place? s name).isSome = true :=
    ⟨shared, by simp [all], found⟩
  rcases cases_ofName? h with special | shared | family | ⟨m, field, named, rfl⟩
  · exact ofTables (List.mem_append_left _ special)
  · exact ofTables (List.mem_append_right _ shared)
  · -- of the families only the locals can be written
    rcases cases_family? family with ⟨index, rfl⟩ | ⟨isLocal, rfl⟩ | rfl
    · cases hx
    · exact ofShared (place?_of_isLocal isLocal)
    · cases hx
  · rcases messages_of_writable hx with mine | everywhere
    · exact ofStage (place?_of_header named mine)
    · exact ofShared (place?_of_header named everywhere)

end Resolver

end EdgeCache
