import EdgeCache.Proofs.Moments
import Mathlib.Data.List.Induction

/-! Where the groups come from. At every moment of a run they are those of the latest match since a
subroutine was last entered, or there are none if nothing matched since then. A callee begins
without groups, and its caller goes on with those that the callee leaves, whatever its own were. -/

namespace EdgeCache

open Machine (captures)

namespace Happening

structure Idle (h : Happening) : Prop where
  stays : h ≠ entry
  misses : ∀ pattern subject, h.sought? = some (pattern, subject) → ¬ Matches pattern subject

def groups (past : List Happening) : Captures := past.foldl leaves .none

theorem groups_concat (past : List Happening) (h : Happening) :
    groups (past ++ [h]) = h.leaves (groups past) :=
  List.foldl_concat ..

/-- What the groups are after all this: if there is a match after the last entry, then those of the
latest one, and otherwise none. -/
inductive Shown (past : List Happening) (k : Captures) : Prop
  | nothing (unmatched : ∀ before h after pattern subject, past = before ++ h :: after →
      h.sought? = some (pattern, subject) → Matches pattern subject → entry ∈ after)
      (empty : ∀ index, k.group? index = none)
  | latest {before after : List Happening} {h : Happening} {pattern subject : String} {p : Pattern}
    {m : Pattern.Match}
      {n : Nat} (stands : past = before ++ h :: after)
      (sought : h.sought? = some (pattern, subject))
      (since : ∀ h ∈ after, h.Idle) (finds : Finds pattern subject p m) (size : p.groups = n + 1)
      (groups : k.OfMatch subject m n)

theorem eq_or_earlier {past before after : List Happening} {h h' : Happening}
    (split : past ++ [h] = before ++ h' :: after) :
    (after = [] ∧ h' = h) ∨ ∃ earlier, after = earlier ++ [h] ∧ past = before ++ h' :: earlier := by
  rcases List.eq_nil_or_concat' after with rfl | ⟨earlier, last, rfl⟩
  · obtain ⟨-, same⟩ := List.append_inj' split rfl
    exact .inl ⟨rfl, (List.singleton_inj.mp same).symm⟩
  · rw [← List.cons_append, ← List.append_assoc] at split
    obtain ⟨rest, same⟩ := List.append_inj' split rfl
    exact .inr ⟨earlier, by rw [same], rest⟩

theorem Shown.idle {past : List Happening} {k : Captures} {h : Happening} (shown : Shown past k)
    (idle : h.Idle) :
    Shown (past ++ [h]) k := by
  cases shown with
  | nothing unmatched empty =>
    refine .nothing (fun before h' after pattern subject split sought found => ?_) empty
    rcases eq_or_earlier split with ⟨-, rfl⟩ | ⟨earlier, rfl, rest⟩
    · exact absurd found (idle.misses _ _ sought)
    · exact List.mem_append_left _ (unmatched _ _ _ _ _ rest sought found)
  | @latest before after h' pattern subject p m n stands sought since finds size groups =>
    rw [stands, List.append_assoc, List.cons_append]
    refine .latest rfl sought (fun h'' hh => ?_) finds size groups
    rcases List.mem_append.mp hh with earlier | last
    · exact since h'' earlier
    · rwa [List.mem_singleton.mp last]

theorem shown_entry (past : List Happening) : Shown (past ++ [entry]) .none := by
  refine .nothing (fun before h after pattern subject split sought _ => ?_) Captures.group?_none
  rcases eq_or_earlier split with ⟨-, rfl⟩ | ⟨earlier, rfl, -⟩
  · cases sought
  · exact List.mem_append_right _ (List.mem_singleton_self _)

theorem shown_sought {past : List Happening} {h : Happening} {pattern subject : String}
    {k : Captures} (shown : Shown past k) (sought : h.sought? = some (pattern, subject))
    (stays : h ≠ entry) :
    Shown (past ++ [h]) (k.after pattern subject) := by
  by_cases found : Matches pattern subject
  · obtain ⟨p, m, finds⟩ := found
    obtain ⟨n, size⟩ := Pattern.exists_groups finds.read
    rw [Captures.after_of_finds finds]
    exact .latest rfl sought (fun _ hh => nomatch hh) finds size
      (Captures.ofMatch_of_finds finds size)
  · rw [Captures.after_of_not_matches found]
    refine shown.idle ⟨stays, fun pattern' subject' same => ?_⟩
    cases sought.symm.trans same
    exact found

theorem shown_groups (past : List Happening) : Shown past (groups past) := by
  induction past using List.reverseRecOn with
  | nil =>
    refine .nothing (fun before _ _ _ _ split => ?_) Captures.group?_none
    cases before <;> cases split
  | append_singleton past h ih =>
    rw [groups_concat]
    cases h with
    | entry => exact shown_entry past
    | search | test => exact shown_sought ih rfl fun absurd => by cases absurd
    | mark | other =>
      exact ih.idle ⟨(fun absurd => by cases absurd), fun _ _ sought => by cases sought⟩

theorem eq_or_later {before after before' after' : List Happening} {h h' : Happening}
    (same : before ++ h :: after = before' ++ h' :: after') : h = h' ∨ h' ∈ after ∨ h ∈ after' := by
  rcases List.append_eq_append_iff.mp same with ⟨more, -, rest⟩ | ⟨more, -, rest⟩
  · cases more with
    | nil => exact .inl (List.cons.inj rest).1
    | cons _ more =>
      refine .inr (.inl ?_)
      rw [(List.cons.inj rest).2]
      exact List.mem_append_right more List.mem_cons_self
  · cases more with
    | nil => exact .inl (List.cons.inj rest).1.symm
    | cons _ more =>
      refine .inr (.inr ?_)
      rw [(List.cons.inj rest).2]
      exact List.mem_append_right more List.mem_cons_self

theorem Shown.unique {past : List Happening} {k l : Captures} (hk : Shown past k)
    (hl : Shown past l) : k = l := by
  refine Captures.group?_injective ?_
  cases hk with
  | nothing unmatched empty =>
    cases hl with
    | nothing _ empty' => exact funext fun index => (empty index).trans (empty' index).symm
    | latest stands sought since finds =>
      exact absurd rfl (since entry (unmatched _ _ _ _ _ stands sought ⟨_, _, finds⟩)).stays
  | latest stands sought since finds size groups =>
    cases hl with
    | nothing unmatched =>
      exact absurd rfl (since entry (unmatched _ _ _ _ _ stands sought ⟨_, _, finds⟩)).stays
    | latest stands' sought' since' finds' size' groups' =>
      rcases eq_or_later (stands.symm.trans stands') with rfl | later | later
      · cases sought.symm.trans sought'
        cases finds.read.symm.trans finds'.read
        cases finds.found.symm.trans finds'.found
        cases size.symm.trans size'
        exact groups.unique groups'
      · exact absurd ⟨_, _, finds'⟩ ((since _ later).misses _ _ sought')
      · exact absurd ⟨_, _, finds⟩ ((since' _ later).misses _ _ sought)

theorem shown_iff {past : List Happening} {k : Captures} : Shown past k ↔ groups past = k :=
  ⟨(shown_groups past).unique, fun same => same ▸ shown_groups past⟩

end Happening

namespace Lifecycle

/-- The groups come from one match. At every moment of the run of a request they are just those of
the latest search that found something since a subroutine was last entered, and there are none if
there is no such search; what is told has all marks that the run leaves. A search that finds
nothing, a pattern that cannot be read and operands of other types leave the groups as they were. -/
theorem groups_of_latest_match (env : Environment) (origin : Origin) (request : Request)
    (client : Address) (port : Nat) (g : Generator) :
    let start := Machine.start (.start env request client port g)
    let run := process env origin
    (∃ past, run.Tells start past) ∧
    (∀ past, run.Tells start past → start.upon past = (run start).2 ∧
      (run start).2.history = past.filterMap Moment.mark? ∧
      ∀ before after, past = before ++ after →
      Happening.Shown (before.map Moment.what) (start.upon before).captures) ∧
    (∀ op l r m, (∀ pattern subject, Run.soughtBy op l r = some (pattern, subject) →
      ¬ Matches pattern subject) → captures (Run.operate op l r m).2 = m.captures) ∧
    (∀ op l r m f n, Run.operate op l r m = (.failed f, n) → n.captures = m.captures) ∧
    ∀ subject c m, (∀ pattern, c.test = some (.regex pattern) → ¬ Matches pattern subject) →
      captures (Run.takes subject c m).2 = m.captures := by
  intro start run
  refine ⟨told_process env origin start, fun past told => ?_, fun op l r m missed => ?_, ?_,
    fun subject c m missed => ?_⟩
  · obtain ⟨reached, follows⟩ := told.follows
    refine ⟨reached, told.history, fun before after split => ?_⟩
    -- no groups are there at the start
    rw [follows before after split]
    exact Happening.shown_groups _
  · rw [Run.operate_captures, Value.groupsAfter]
    split
    · rename_i pattern subject sought
      exact Captures.after_of_not_matches (missed pattern subject sought) m.captures
    · rfl
  · exact fun _ _ _ _ _ _ failed => Run.operate_captures_of_failed failed
  · rw [Run.takes_captures]
    split
    · rename_i pattern test
      exact Captures.after_of_not_matches (missed pattern test) m.captures
    · rfl

def groupedBody : SubroutineDeclaration :=
  ⟨.unknown, "vcl_log", none, [
    .branch .unknown (.binary .unknown (.string .unknown "abc") .regex (.string .unknown "(b)(x)?"))
      [] [] none,
    .branch .unknown (.binary .unknown (.string .unknown "abc") .notRegex (.string .unknown "(d)"))
      [] [] none]⟩

def groupedIn : Environment :=
  .of { Declarations.empty with subroutines := [groupedBody] } .standard

def groupedStart : Machine := .start (.start groupedIn .empty .loopback 0 (.ofSeed 0))

theorem groups_of_latest_match_logged :
    let final := (process groupedIn .empty groupedStart).2
    (∃ past, (process groupedIn .empty).Tells groupedStart past ∧ groupedStart.upon past = final ∧
      final.history = past.filterMap Moment.mark? ∧
      Happening.Shown (past.map Moment.what) final.captures) ∧
    final.captures = ⟨["b", "b", ""]⟩ ∧ ¬ Matches "(d)" "abc" ∧
    ∀ m, captures (Run.operate .notRegex (.ofString "abc") (Value.ofString "(d)").asLiteral m).2 =
      m.captures ∧
      captures (Run.operate .regex (.ofInteger 1) (.ofInteger 2) m).2 = m.captures ∧
      captures (Run.takes "abc" (.mk .unknown (some (.regex "(d)")) [] false) m).2 =
        m.captures := by
  obtain ⟨⟨past, told⟩, moments, missed, failed, untaken⟩ :=
    groups_of_latest_match groupedIn .empty .empty .loopback 0 (.ofSeed 0)
  obtain ⟨reached, marks, shown⟩ := moments past told
  have last := shown past [] (List.append_nil past).symm
  rw [reached] at last
  have absent : ¬ Matches "(d)" "abc" := by decide +kernel
  refine ⟨⟨past, told, reached, marks, last⟩, by decide +kernel, absent, fun m => ⟨?_, ?_, ?_⟩⟩
  · refine missed _ _ _ _ fun pattern subject sought => ?_
    cases sought
    exact absent
  · exact failed .regex (.ofInteger 1) (.ofInteger 2) m _ _ rfl
  · refine untaken _ _ _ fun pattern test => ?_
    cases test
    exact absent

end Lifecycle

namespace Run

variable {env : Environment} {t : Token} {c : Statement.Callee} {s : SubroutineDeclaration}

/-- A call takes no notice of the groups of the caller. The caller reads the same groups as before
exactly if the callee leaves these: if they are those of the latest match that the callee made since
it last entered a subroutine, or if there are none and it made no match. -/
theorem groups_kept_iff (found : env.declarations.callee? c = some s) (n : Nat) (m : Machine) :
    let entered := (m.enter s.name).push (c.frame s)
    let after := invoke env n t c m
    (∀ k, invoke env n t c (m.withGroups k) = after) ∧
    (m.SameGroups env after ↔ captures (runBody env n s.body entered).2 = m.captures) ∧
    (∃ past, (runBody env n s.body).Tells entered past) ∧
    ∀ past, (runBody env n s.body).Tells entered past →
      (m.SameGroups env after ↔ Happening.Shown (past.map Moment.what) m.captures) := by
  intro entered after
  have left : m.SameGroups env after ↔ captures (runBody env n s.body entered).2 = m.captures := by
    rw [Machine.sameGroups_iff, show after = _ from invoke_eq found ..]
    rfl
  refine ⟨fun k => ?_, left, told_runBody env n s.body entered, fun past told => left.trans ?_⟩
  · show invoke env n t c (m.withGroups k) = invoke env n t c m
    rw [invoke_eq found, invoke_eq found]
    rfl
  · obtain ⟨reached, follows⟩ := told.follows
    have ends := follows past [] (List.append_nil past).symm
    rw [reached] at ends
    rw [Happening.shown_iff, ends]
    -- a callee begins without groups
    rfl

theorem groups_kept_name :
    let matched := searchingStart.withGroups ⟨["b", "b"]⟩
    let again := searchingStart.withGroups ⟨["y", "y"]⟩
    ∃ name other, searching.declarations.callee? (.functional "name") = some name ∧
      searching.declarations.callee? (.plain "other") = some other ∧
      searchingStart.SameGroups searching
        (invoke searching 9 .unknown (.functional "name") searchingStart) ∧
      ¬ matched.SameGroups searching (invoke searching 9 .unknown (.functional "name") matched) ∧
      again.SameGroups searching (invoke searching 9 .unknown (.plain "other") again) ∧
      (∃ past, (runBody searching 9 other.body).Tells
        ((again.enter "other").push ⟨"other", none⟩) past ∧
        Happening.Shown (past.map Moment.what) ⟨["y", "y"]⟩) := by
  intro matched again
  have named : searching.declarations.callee? (.functional "name") = some _ := rfl
  have plain : searching.declarations.callee? (.plain "other") = some _ := rfl
  have kept (m : Machine) := (groups_kept_iff (t := .unknown) named 9 m).2.1
  obtain ⟨-, left, ⟨past, told⟩, shown⟩ := groups_kept_iff (t := .unknown) plain 9 again
  have same := left.mpr (by decide +kernel)
  refine ⟨_, _, rfl, rfl, (kept searchingStart).mpr rfl, fun same => ?_, same, past, told,
    (shown past told).mp same⟩
  have left := (kept matched).mp same
  revert left
  decide +kernel

/-- After the call the group is that of the match in the callee. -/
theorem groups_lost_searching :
    (Run.subroutine searching "vcl_recv" .recv searchingStart).2.logs = ["b", "y"] ∧
    ∃ s, searching.declarations.callee? (.plain "other") = some s ∧
      let m := searchingStart.withGroups ⟨["b", "b"]⟩
      (invoke searching 9 .unknown (.plain "other") m).context.getVariable searching
        ("re.group." ++ "1") ≠
        m.context.getVariable searching ("re.group." ++ "1") := by
  refine ⟨by decide +kernel, _, rfl, fun same => ?_⟩
  rw [Context.getVariable_group, Context.getVariable_group] at same
  have groups := Value.ofText?_injective (Except.ok.inj same)
  revert groups
  decide +kernel

end Run

end EdgeCache
