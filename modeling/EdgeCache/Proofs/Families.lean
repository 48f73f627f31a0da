import EdgeCache.Proofs.Permitted

/-! What names stand for that are known by how they begin: at every stage those of the groups of the
last match and of the locals, and nothing else that a table lists. -/

namespace EdgeCache.Variable

theorem after?_eq_some {start name rest : String} :
    after? start name = some rest ↔ name = start ++ rest := by
  unfold after?
  constructor
  · intro h
    split at h <;> cases h
    rename_i begins
    obtain ⟨back, hb⟩ := List.isPrefixOf_iff_prefix.mp begins
    rw [← String.toList_inj, String.toList_append,
      String.toList_ofList, ← hb, ← String.length_toList, List.drop_left]
  · rintro rfl
    have begins : start.toList.isPrefixOf (start ++ rest).toList = true := by
      rw [String.toList_append]
      exact List.isPrefixOf_iff_prefix.mpr (List.prefix_append _ _)
    rw [if_pos begins, String.toList_append, ← String.length_toList, List.drop_left,
      String.ofList_toList]

def familyStarts : List String := ["re.group.", "var."]

def isApart (table : List (String × Variable)) : Bool :=
  table.all fun p => familyStarts.all fun start => (after? start p.1).isNone

theorem special_isApart (s : Scope) : isApart (special s) = true := by
  cases s <;> decide +kernel

theorem common_isApart : isApart common = true := by
  decide +kernel

variable {start rest name : String} {table : List (String × Variable)} {s : Scope} {x : Variable}

theorem lookup_of_isApart (apart : isApart table = true) (hs : start ∈ familyStarts) :
    table.lookup (start ++ rest) = none := by
  cases found : table.lookup (start ++ rest) with
  | none => rfl
  | some x =>
    have names := List.all_eq_true.mp apart _ (mem_of_lookup found)
    have unnamed := List.all_eq_true.mp names start hs
    rw [after?_eq_some.mpr rfl] at unnamed
    cases unnamed

theorem ofName?_family (hs : start ∈ familyStarts) (hx : family? (start ++ rest) = some x) :
    ofName? s (start ++ rest) = some x := by
  unfold ofName?
  rw [lookup_of_isApart (special_isApart s) hs, lookup_of_isApart common_isApart hs, hx]

theorem ofName?_group (s : Scope) (index : String) :
    ofName? s ("re.group." ++ index) = some (.group index) := by
  refine ofName?_family (by decide) ?_
  unfold family?
  rw [after?_eq_some.mpr rfl]

def isLocal (name : String) : Bool := (after? "var." name).isSome

theorem ofName?_local (h : isLocal name = true) : ofName? s name = some (.local name) := by
  obtain ⟨rest, hr⟩ := Option.isSome_iff_exists.mp h
  obtain rfl := after?_eq_some.mp hr
  have noGroup : after? "re.group." ("var." ++ rest) = none := by
    unfold after?
    rw [String.toList_append]
    rfl
  refine ofName?_family (by decide) ?_
  unfold family?
  rw [noGroup, hr]

def isNoLocal : Variable → Bool
  | .local _ => false
  | _ => true

theorem special_isNoLocal (s : Scope) : (special s).all (fun p => p.2.isNoLocal) = true := by
  cases s <;> decide

theorem shared_isNoLocal : shared.all (fun p => p.2.isNoLocal) = true := by
  decide

theorem isLocal_of_ofName? {n : String} (h : ofName? s name = some (.local n)) :
    isLocal name = true ∧ n = name := by
  rcases cases_ofName? h with special | shared | family | ⟨m, field, -, header⟩
  · cases List.all_eq_true.mp (special_isNoLocal s) _ special
  · cases List.all_eq_true.mp shared_isNoLocal _ shared
  · rcases cases_family? family with ⟨index, same⟩ | ⟨begins, same⟩ | same <;> cases same
    exact ⟨begins, rfl⟩
  · cases header

end EdgeCache.Variable
