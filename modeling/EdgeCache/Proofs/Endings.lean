import EdgeCache.Lifecycle.Stages
import EdgeCache.Proofs.Discipline

/-! How the subroutines of the stages end. Each ending was checked where it came up, however deep
that was, and the stage that it was checked for is the one that ends. -/

namespace EdgeCache

open Lifecycle (visit noteState)

/-- An ending that a stage allows. An error shows its status and its text in the object. -/
def Ending.Legal (s : Scope) (c : Context) : Ending → Prop
  | .returned state => state ∈ s.legalReturns
  | .restart => s.allowsRestart = true
  | .error status response => s.allowsError = true ∧
    c.slot .objectStatus = .ofInteger status ∧ c.slot .objectReason = .ofString response

def Ending.Shown (e : Option Ending) (c : Context) : Prop :=
  ∀ status response, e = some (.error status response) →
    c.slot .objectStatus = .ofInteger status ∧ c.slot .objectReason = .ofString response

def shows (env : Environment) : Discipline env where
  run m e n := n.context.scope = m.context.scope ∧ Ending.Shown e n.context
  refl _ := ⟨rfl, nofun⟩
  trans h h' := ⟨h'.1.trans h.1, h'.2⟩
  scope h := h.1
  act h := ⟨Context.scope_eq_of_settled h.settled, nofun⟩
  restart _ := ⟨rfl, nofun⟩
  error _ _ _ := ⟨rfl, fun _ _ h => by cases h; exact ⟨rfl, rfl⟩⟩
  framed := by
    intro m f e n locals h
    refine ⟨h.1, fun status response he => h.2 status response ?_⟩
    unfold Frame.passes at he
    split at he
    · exact he
    · cases he

variable {env : Environment} {name : String} {s : Scope} {m n : Machine} {e : Ending}

theorem subroutine_ending (hs : s ≠ .unknown) (h : Run.subroutine env name s m = (.done e, n)) :
    e.Legal s n.context := by
  have ran := Contract.subroutine_verdict (d := (shows env).contract) (m := m) name s trivial
  rw [h] at ran
  obtain ⟨p, -, ⟨-, shown⟩, fits, rfl⟩ := ran
  cases e with
  | returned state => exact fits hs
  | restart => exact fits
  | error status response => exact ⟨fits, shown status response rfl⟩

theorem ending_of_visit (h : visit env s m = (.done e, n)) :
    ∃ m' n', Run.subroutine env s.subroutine s m' = (.done e, n') := by
  refine ⟨m.record (.stage s m.context.restarts), ?_⟩
  change Run.bind (Run.subroutine env s.subroutine s) (fun e =>
    Run.bind (Run.modifyContext (noteState e)) fun _ => Run.pure e)
    (m.record (.stage s m.context.restarts)) = _ at h
  unfold Run.bind at h
  generalize Run.subroutine env s.subroutine s _ = r at h
  rcases r with ⟨e | f | _, p⟩ <;> cases h
  exact ⟨p, rfl⟩

theorem visit_ending (hs : s ≠ .unknown) (h : visit env s m = (.done e, n)) : e.Fits s := by
  obtain ⟨m', n', ran⟩ := ending_of_visit h
  have legal := subroutine_ending hs ran
  cases e with
  | returned state => exact fun _ => legal
  | restart => exact legal
  | error status response => exact legal.1

/-- The endings of all subroutines are legal for their stage, so that the stages which do not ask
how theirs ended, or not for all endings, do not miss an error or a restart. -/
theorem endings_legal (env : Environment) :
    (∀ name s m e n, s ≠ .unknown → Run.subroutine env name s m = (.done e, n) →
      e.Legal s n.context) ∧
      (∀ s ∈ [.hash, .log], ∀ m e n, visit env s m = (.done e, n) → e.stop = none) ∧
      ∀ s ∈ [.error, .deliver], ∀ m e n, visit env s m = (.done e, n) →
        e.stop = none ∨ e = .restart := by
  refine ⟨fun name s m e n => subroutine_ending, fun s hs m e n h => ?_, fun s hs m e n h => ?_⟩
  · simp only [List.mem_cons, List.not_mem_nil, or_false] at hs
    have fits : e.Fits s := visit_ending (by rcases hs with rfl | rfl <;> nofun) h
    rcases hs with rfl | rfl <;> cases e <;> first | rfl | cases fits
  · simp only [List.mem_cons, List.not_mem_nil, or_false] at hs
    have fits : e.Fits s := visit_ending (by rcases hs with rfl | rfl <;> nofun) h
    rcases hs with rfl | rfl <;> cases e <;> first | exact .inl rfl | exact .inr rfl | cases fits

def refusing : Environment :=
  .of { Declarations.empty with
    subroutines := [
      ⟨.unknown, "vcl_recv", none, [.call .unknown "refuse"]⟩,
      ⟨.unknown, "refuse", none, [
        .error .unknown (some (.integer .unknown 601)) (some (.string .unknown "gone"))]⟩,
      ⟨.unknown, "vcl_error", none, [.restart .unknown]⟩] } .standard

def refusingStart : Machine := .start (.start refusing .empty .loopback 0 (.ofSeed 0))

theorem endings_legal_refusing :
    let received := Run.subroutine refusing "vcl_recv" .recv refusingStart
    let hashed := visit refusing .hash refusingStart
    let raised := visit refusing .error refusingStart
    (received = (.done (.error 601 "gone"), received.2) ∧
      Ending.Legal .recv received.2.context (.error 601 "gone")) ∧
      (hashed = (.done (.returned .hash), hashed.2) ∧ (Ending.returned .hash).stop = none) ∧
      raised = (.done .restart, raised.2) ∧
      (Ending.restart.stop = none ∨ Ending.restart = .restart) := by
  intro received hashed raised
  obtain ⟨legal, quiet, heard⟩ := endings_legal refusing
  have hr : received = (.done (.error 601 "gone"), received.2) := rfl
  have hh : hashed = (.done (.returned .hash), hashed.2) := rfl
  have he : raised = (.done .restart, raised.2) := rfl
  exact ⟨⟨hr, legal _ _ _ _ _ nofun hr⟩, ⟨hh, quiet _ (by decide) _ _ _ hh⟩,
    he, heard _ (by decide) _ _ _ he⟩

end EdgeCache
