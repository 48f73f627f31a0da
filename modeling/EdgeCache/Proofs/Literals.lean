import EdgeCache.Proofs.Storage

/-! Literals stay within expressions. What a request carries, and whatever is stored, is no literal,
so that the texts which are read as patterns are those of the program. -/

namespace EdgeCache

namespace Value

variable {slot right v w : Value} {op : AssignOp}

theorem assign_computed (hs : slot.literalText? = none) (h : slot.assign op right = .ok v) :
    v.literalText? = none := by
  have kind := kind_of_assign h
  cases slot with
  | string s m =>
    obtain ⟨p, -, h⟩ := bind_eq_ok h
    cases h
    have unmarked : m.literal = false := by simpa [literalText?] using hs
    simp [literalText?, unmarked]
  | _ => cases v <;> first | rfl | cases kind

theorem assignLocal_computed {old : Value} (ho : old.literalText? = none)
    (h : Variable.assignLocal old op v = .ok w) : w.literalText? = none := by
  unfold Variable.assignLocal at h
  split at h
  · split at h
    · cases h; rfl
    · cases h; rfl
    · cases h
  · exact assign_computed ho h

/-- A value whose text is that of a string literal if it is one itself. -/
def Literate (p : String → Prop) (v : Value) : Prop := ∀ text, v.literalText? = some text → p text

theorem literate_of_computed {p : String → Prop} (h : v.literalText? = none) : v.Literate p := by
  intro text ht
  rw [h] at ht
  cases ht

end Value

theorem Slot.initial_computed (s : Slot) : (Slot.initial s).literalText? = none := by
  cases s with
  | waf w => cases w <;> rfl
  | _ => rfl

section Reachable

variable {p : Program} {env : Environment} {origin : Origin} {m n : Machine}

def literates (loaded : Declarations.load p = .ok env.declarations) : Storage env.declarations where
  text := (p.Mentions ·)
  value := Value.Literate (p.Mentions ·)
  searched := (p.Mentions ·)
  slot _ v := v.literalText? = none
  held v := v.literalText? = none
  declared := Declarations.body_within loaded
  literal h text ht := by cases ht; exact h
  made h := Value.literate_of_computed h.computed
  sought right sought := right _ (Value.literalText?_of_sought? sought)
  shown := Value.literate_of_computed
  taken := Value.literate_of_computed
  chosen := ⟨fun _ => Value.literate_of_computed rfl, fun _ => trivial⟩
  initial := Slot.initial_computed
  written _ _ := rfl
  status _ := rfl
  copied h _ := h
  assigned := Value.assign_computed
  unset k := (Value.made_unset env.declarations k).computed
  kept h _ := Value.assignLocal_computed h

theorem literal_of_evaluate (loaded : Declarations.load p = .ok env.declarations)
    (h : Reached p env origin m) {depth : Nat} {e : Expression} (he : e.Within (p.Mentions ·))
    {v : Value} (hv : Run.evaluate env depth e m = (.done v, n)) : v.Literate (p.Mentions ·) := by
  have stored : m.Stored (literates loaded) := h.stored fun _ ht => ht
  have ran := (Contract.gives_evaluate (d := (literates loaded).contract) depth he).verdict stored
  rw [hv] at ran
  exact ran.2.2

/-- At every point on the way of a request, a value that is a literal text has the text of a string
literal of the program, and so has every text that an operator has read as a pattern. -/
theorem patterns_of_program (loaded : Declarations.load p = .ok env.declarations)
    (origin : Origin) :
    (∀ r client port g,
      Reached p env origin (Lifecycle.process env origin (.start (.start env r client port g))).2) ∧
      ∀ m, Reached p env origin m →
        (∀ pattern subject, .search pattern subject ∈ m.history → p.Mentions pattern) ∧
          ∀ depth e v n text, e.Within (p.Mentions ·) → Run.evaluate env depth e m = (.done v, n) →
            v.literalText? = some text → p.Mentions text := by
  refine ⟨Reached.process p env origin, fun m hm => ⟨?_, ?_⟩⟩
  · have stored : m.Stored (literates loaded) := hm.stored fun _ ht => ht
    exact stored.searched
  · exact fun depth e v n text he hv => literal_of_evaluate loaded hm he hv text

end Reachable

def fallbackPattern : Expression :=
  .call .unknown "table.lookup"
    [.ident .unknown "patterns", .string .unknown "key", .string .unknown "a"]

def searchingBody : SubroutineDeclaration :=
  ⟨.unknown, "vcl_recv", none, [
    .branch .unknown (.binary .unknown (.ident .unknown "req.url") .regex fallbackPattern) []
      [] none]⟩

def emptyPatterns : TableDeclaration := ⟨.unknown, "patterns", none, []⟩

def searching : Program := ⟨[.table emptyPatterns, .subroutine searchingBody]⟩

def searchingIn : Environment :=
  .of { Declarations.empty with tables := [emptyPatterns], subroutines := [searchingBody] }
    .standard

def searchingStart : Machine := .start (.start searchingIn .empty .loopback 0 (.ofSeed 0))

def Mark.isSearchFor (pattern : String) : Mark → Bool
  | .search p _ => p == pattern
  | _ => false

theorem patterns_of_program_fallback :
    let final := (Lifecycle.process searchingIn .empty searchingStart).2
    let looked := Run.evaluate searchingIn 5 fallbackPattern (searchingStart.atStage .recv)
    Declarations.load searching = .ok searchingIn.declarations ∧
      ((∃ subject, .search "a" subject ∈ final.history) ∧ searching.Mentions "a") ∧
      looked = (.done (.string "a" ⟨true, false⟩), looked.2) ∧ searching.Mentions "a" := by
  intro final looked
  have loaded : Declarations.load searching = .ok searchingIn.declarations := rfl
  obtain ⟨ends, literal⟩ := patterns_of_program loaded .empty
  have searched : final.history.any (Mark.isSearchFor "a") = true := by decide +kernel
  obtain ⟨k, hk, found⟩ := List.any_eq_true.mp searched
  have within : fallbackPattern.Within (searching.Mentions ·) := fun text h =>
    ⟨searchingBody, by simp [searching], _, List.mem_cons_self .., .condition (.right h)⟩
  have value : looked = (.done (.string "a" ⟨true, false⟩), looked.2) := rfl
  refine ⟨loaded, ?_, value, ?_⟩
  · cases k with
    | search pattern subject =>
      cases beq_iff_eq.mp found
      exact ⟨⟨subject, hk⟩, (literal final (ends ..)).1 _ subject hk⟩
    | _ => cases found
  · have reached : Reached searching searchingIn .empty (searchingStart.atStage .recv) :=
      .stage .recv (.start ..)
    exact (literal _ reached).2 5 _ _ _ "a" within value rfl

end EdgeCache
