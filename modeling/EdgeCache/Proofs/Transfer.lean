import EdgeCache.Proofs.Discipline
import Mathlib.Data.List.Basic

/-! Statements that end the stage. One that takes effect while only subroutines run that were called
for their effects ends the run of the stage's subroutine at once and with its own ending. One inside
a functional subroutine is lost: its caller gets a value and goes on. -/

namespace EdgeCache

def Frame.AllPlain (fs : List Frame) : Prop := ∀ f ∈ fs, f.returns = none

namespace Mark

/-- Of a mark that is no transfer, or one inside a functional subroutine on top of these frames. -/
def Lost (frames : List Frame) : Mark → Prop
  | .transfer e fs => e.stop = some e ∧ ∃ inner, fs = inner ++ frames ∧ ¬ Frame.AllPlain inner
  | _ => True

def Reaches (frames : List Frame) (e : Ending) (k : Mark) : Prop :=
  ∃ inner, k = .transfer e (inner ++ frames) ∧ Frame.AllPlain inner

variable {frames : List Frame} {f : Frame} {e : Ending} {k : Mark}

theorem Lost.of_cons (h : k.Lost (f :: frames)) : k.Lost frames := by
  cases k with
  | transfer e fs =>
    obtain ⟨he, inner, rfl, hi⟩ := h
    refine ⟨he, inner ++ [f], by rw [List.append_assoc, List.singleton_append], fun hp => hi ?_⟩
    exact fun g hg => hp g (List.mem_append_left _ hg)
  | _ => trivial

theorem Reaches.of_plain (h : k.Reaches (f :: frames) e) (hf : f.returns = none) :
    k.Reaches frames e := by
  obtain ⟨inner, rfl, hi⟩ := h
  refine ⟨inner ++ [f], by rw [List.append_assoc, List.singleton_append], fun g hg => ?_⟩
  rcases List.mem_append.mp hg with hg | hg
  · exact hi g hg
  · exact List.mem_singleton.mp hg ▸ hf

theorem Reaches.lost (h : k.Reaches (f :: frames) e) (he : e.stop = some e)
    (hf : f.returns ≠ none) :
    k.Lost frames := by
  obtain ⟨inner, rfl, -⟩ := h
  refine ⟨he, inner ++ [f], by rw [List.append_assoc, List.singleton_append], fun hp => hf ?_⟩
  exact hp f (List.mem_append_right _ (List.mem_singleton_self f))

theorem Lost.not_allPlain {inner : List Frame}
    (h : (Mark.transfer e (inner ++ frames)).Lost frames) :
    ¬ Frame.AllPlain inner := by
  obtain ⟨-, inner', hi, hn⟩ := h
  rwa [List.append_cancel_right hi]

end Mark

/-- The marks of a run: if it ends the stage, the last one is the transfer that does, and all others
are lost. -/
def Trail (m : Machine) (e : Option Ending) (n : Machine) : Prop :=
  match e with
  | none => m.Grows (Mark.Lost m.frames) n
  | some e => e.stop = some e ∧
    ∃ p k, m.Grows (Mark.Lost m.frames) p ∧ n.history = p.history ++ [k] ∧ k.Reaches m.frames e

theorem Trail.after {m n p : Machine} {e : Option Ending} (hf : n.frames = m.frames)
    (h : Trail m none n) (h' : Trail n e p) : Trail m e p := by
  cases e with
  | none =>
    have h' : n.Grows (Mark.Lost n.frames) p := h'
    rw [hf] at h'
    exact Machine.Grows.trans h h'
  | some e =>
    obtain ⟨he, q, k, hq, hp, hk⟩ := h'
    rw [hf] at hq hk
    exact ⟨he, q, k, Machine.Grows.trans h hq, hp, hk⟩

theorem Trail.transfer {m n : Machine} {e : Ending} (he : e.stop = some e)
    (hn : n.history = m.history ++ [.transfer e m.frames]) : Trail m (some e) n :=
  ⟨he, m, .transfer e m.frames, .refl m, hn, [], rfl, fun _ h => nomatch h⟩

theorem Trail.framed {m n : Machine} {f : Frame} {e : Option Ending} (h : Trail (m.push f) e n) :
    Trail m (f.passes e) n := by
  have lost {p : Machine} (h : (m.push f).Grows (Mark.Lost (f :: m.frames)) p) :
      m.Grows (Mark.Lost m.frames) p :=
    h.mono fun _ => Mark.Lost.of_cons
  have given (k : Kind) (hf : f.returns = some k) : f.returns ≠ none := by simp [hf]
  unfold Frame.passes
  cases hf : f.returns with
  | none =>
    cases e with
    | none => exact lost h
    | some e =>
      obtain ⟨he, p, k, hp, hn, hk⟩ := h
      exact ⟨he, p, k, lost hp, hn, hk.of_plain hf⟩
  | some kind =>
    -- a functional subroutine lets no transfer out
    cases e with
    | none => exact lost h
    | some e =>
      obtain ⟨he, p, k, hp, hn, hk⟩ := h
      have hk : k.Lost m.frames := hk.lost he (given kind hf)
      exact (lost hp).trans ⟨[k], hn, fun _ h => List.mem_singleton.mp h ▸ hk⟩

def transfers (env : Environment) : Discipline env where
  run m e n := n.frames = m.frames ∧ n.context.scope = m.context.scope ∧ Trail m e n
  refl m := ⟨rfl, rfl, .refl m⟩
  trans h h' := ⟨h'.1.trans h.1, h'.2.1.trans h.2.1, h.2.2.after h.1 h'.2.2⟩
  scope h := h.2.1
  act h := ⟨h.frames, Context.scope_eq_of_settled h.settled, h.grows (fun _ => trivial) fun _ _ =>
    trivial⟩
  restart {m} _ := ⟨rfl, rfl, .transfer rfl (m.history_note _)⟩
  error {m} _ _ _ := ⟨rfl, rfl, .transfer rfl (m.history_note _)⟩
  framed _ h := ⟨congrArg List.tail h.1, h.2.1, h.2.2.framed⟩

variable {env : Environment} {name : String} {s : Scope} {m : Machine} {e : Ending}

def Outcome.stop : Outcome Ending → Option Ending
  | .done e => e.stop
  | _ => none

theorem Outcome.eq_done_of_stop {o : Outcome Ending} (h : o.stop = some e) : o = .done e := by
  rcases o with e' | _ | _
  · cases e' <;> cases h <;> rfl
  · cases h
  · cases h

theorem subroutine_trail (env : Environment) (name : String) (s : Scope) (m : Machine) :
    Trail m (Run.subroutine env name s m).1.stop (Run.subroutine env name s m).2 := by
  have ran := Discipline.subroutine_verdict (d := transfers env) name s m
  generalize Run.subroutine env name s m = r at ran
  rcases r with ⟨e | f | _, n⟩
  · obtain ⟨p, hp, rfl⟩ := ran
    exact hp.2.2
  · exact ran.2.2.2
  · exact ran.2.2

/-- A restart or an error that takes effect ends the run, with its own ending and nothing after it,
exactly if no functional subroutine is running. -/
theorem transfer_ends_iff {before after : List Mark} {fs : List Frame}
    (h : (Run.subroutine env name s m).2.history = m.history ++ before ++ .transfer e fs :: after) :
    ((Run.subroutine env name s m).1 = .done e ∧ after = []) ↔
      ∃ inner, fs = inner ++ m.frames ∧ Frame.AllPlain inner := by
  have trail := subroutine_trail env name s m
  generalize Run.subroutine env name s m = r at trail h
  have unreached (hl : (Mark.transfer e fs).Lost m.frames) :
      ¬ ∃ inner, fs = inner ++ m.frames ∧ Frame.AllPlain inner := by
    rintro ⟨inner, rfl, hi⟩
    exact hl.not_allPlain hi
  cases hs : r.1.stop with
  | none =>
    rw [hs] at trail
    obtain ⟨marks, hm, hl⟩ := trail
    rw [hm, List.append_assoc] at h
    have lost := hl (.transfer e fs) (by rw [List.append_cancel_left h]; simp)
    refine iff_of_false ?_ (unreached lost)
    rintro ⟨hd, -⟩
    rw [hd] at hs
    exact absurd (hs.symm.trans lost.1) (by simp)
  | some e' =>
    rw [hs] at trail
    obtain ⟨-, p, k, ⟨marks, hm, hl⟩, hn, hk⟩ := trail
    rw [hn, hm, List.append_assoc, List.append_assoc] at h
    have h := List.append_cancel_left h
    have ended := Outcome.eq_done_of_stop hs
    rcases List.eq_nil_or_concat' after with rfl | ⟨front, k', rfl⟩
    · obtain ⟨inner, rfl, hi⟩ := hk
      obtain ⟨-, hk⟩ := List.append_singleton_inj.mp h
      cases hk
      exact iff_of_true ⟨ended, rfl⟩ ⟨inner, rfl, hi⟩
    · -- the transfer comes before the one that ends the run
      rw [← List.cons_append, ← List.append_assoc] at h
      obtain ⟨hb, -⟩ := List.append_singleton_inj.mp h
      have lost := hl (.transfer e fs) (by rw [hb]; simp)
      refine iff_of_false ?_ (unreached lost)
      rintro ⟨-, ha⟩
      simp at ha

def errorInCall : Environment :=
  .of { Declarations.empty with
    subroutines := [
      ⟨.unknown, "vcl_recv", none, [
        .branch .unknown (.boolean .unknown true) [.call .unknown "refuse"] [] none,
        .log .unknown (.string .unknown "after")]⟩,
      ⟨.unknown, "refuse", none, [
        .error .unknown (some (.integer .unknown 601)) (some (.string .unknown "gone"))]⟩] }
          .standard

def errorInCallStart : Machine := .start (.start errorInCall .empty .loopback 0 (.ofSeed 0))

theorem transfer_ends_errorInCall :
    let r := Run.subroutine errorInCall "vcl_recv" .recv errorInCallStart
    let before : List Mark := [
      .statement (.branch .unknown (.boolean .unknown true) [.call .unknown "refuse"] [] none),
      .statement (.call .unknown "refuse"),
      .statement (.error .unknown (some (.integer .unknown 601)) (some (.string .unknown "gone")))]
    let frames : List Frame := [⟨"refuse", none⟩, ⟨"vcl_recv", none⟩]
    r.2.history = errorInCallStart.history ++ before ++ .transfer (.error 601 "gone") frames :: [] ∧
      r.1 = .done (.error 601 "gone") := by
  intro r before frames
  have history : r.2.history =
      errorInCallStart.history ++ before ++ .transfer (.error 601 "gone") frames :: [] := rfl
  have plain : Frame.AllPlain frames := by simp [Frame.AllPlain, frames]
  exact ⟨history, ((transfer_ends_iff history).mpr ⟨frames, (List.append_nil _).symm, plain⟩).1⟩

def restartInValue : Environment :=
  .of { Declarations.empty with
    subroutines := [
      ⟨.unknown, "vcl_recv", none, [
        .log .unknown (.call .unknown "again" []),
        .log .unknown (.string .unknown "after")]⟩]
    functional := [⟨.unknown, "again", some .string, [.restart .unknown]⟩] } .standard

/-- The restart takes effect, and yet the next statement runs and the stage goes on to the
look-up. -/
theorem restart_lost_in_value :
    let r := Run.subroutine restartInValue "vcl_recv" .recv
      (.start (.start restartInValue .empty .loopback 0 (.ofSeed 0)))
    r.2.history = [
        .statement (.log .unknown (.call .unknown "again" [])),
        .statement (.restart .unknown),
        .transfer .restart [⟨"again", some .string⟩, ⟨"vcl_recv", none⟩],
        .statement (.log .unknown (.string .unknown "after"))] ∧
      r.1 = .done (.returned .lookup) :=
  ⟨rfl, rfl⟩

end EdgeCache
