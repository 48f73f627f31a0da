import EdgeCache.Proofs.Passes
import EdgeCache.Proofs.Steps
import Mathlib.Logic.Relation

/-! The way of a request from site to site. The lifecycle does one thing at each site, and what it
does there tells the site that comes next; the whole handling of a request is one way through the
sites. -/

namespace EdgeCache.Lifecycle

open Relation (ReflTransGen)

inductive Site where
  | recv
  | hash
  | miss
  | pass (copied : Bool)
  | fetch
  | ask (backend : Option Backend)
  | error
  | deliver (failed : Bool)
  | visit (s : Scope)
  | again
  | finished

namespace Site

def after : Scope → Ending → Site
  | .recv, .returned .pass => pass false
  | .recv, .returned .error | .recv, .error .. => error
  | .recv, .restart => again
  | .recv, .returned _ => hash
  | .hash, _ => miss
  | .miss, .returned .pass => pass true
  | .miss, .returned .error | .miss, .error .. => error
  | .miss, .returned .deliverStale => deliver false
  | .miss, .restart => again
  | .miss, .returned _ => fetch
  | .pass, .returned .error | .pass, .error .. => error
  | .pass, .restart => again
  | .pass, .returned _ => fetch
  | .fetch, .returned .error | .fetch, .error .. => error
  | .fetch, .restart => again
  | .fetch, .returned _ => deliver false
  | .error, .restart => again
  | .error, _ => deliver true
  | .deliver, .restart => again
  | .deliver, _ => visit .log
  | _, _ => finished

def rank : Site → Nat
  | recv => 0
  | visit .recv => 1
  | hash | pass false => 2
  | visit .hash => 3
  | miss => 4
  | visit .miss => 5
  | pass true => 6
  | visit .pass => 7
  | fetch => 8
  | ask _ => 9
  | visit .fetch => 10
  | error | deliver false => 11
  | visit .error => 12
  | deliver true => 13
  | visit .deliver => 14
  | visit _ => 15
  | again | finished => 16

theorem rank_lt_rank_after (s : Scope) (e : Ending) : (visit s).rank < (after s e).rank := by
  cases s <;> rcases e with (_ | _ | _ | _ | _ | _ | _) | _ | _
    <;> exact Nat.lt_of_succ_le (Nat.le_of_ble_eq_true rfl)

end Site

def respond (failed : Bool) : Context → Context := if failed then respondWithObject
    else respondWithFetched

def Site.entry? : Site → Option (Scope × (Context → Context))
  | recv => some (.recv, withState "RECV")
  | hash => some (.hash, withState "HASH")
  | miss => some (.miss, fun c => withState "MISS" (copyRequest c))
  | pass copied => some (.pass, fun c => withState "PASS" (if copied then c else copyRequest c))
  | error => some (.error, withState "ERROR")
  | deliver failed => some (.deliver, fun c => respond failed (withState "DELIVER" c))
  | _ => none

def settle (s : Scope) : Context → Context := if s = .hash then fillHash else id

/-- What the lifecycle does at a site, and the site to which that leads. -/
def advance (env : Environment) (origin : Origin) : Site → Run Site
  | .recv => do
    Run.modifyContext (withState "RECV")
    return .visit .recv
  | .hash => do
    Run.modifyContext (withState "HASH")
    return .visit .hash
  | .miss => do
    Run.modifyContext fun c => withState "MISS" (copyRequest c)
    return .visit .miss
  | .pass copied => do
    Run.modifyContext fun c => withState "PASS" (if copied then c else copyRequest c)
    return .visit .pass
  | .fetch => do
    Run.modifyContext (withState "FETCH")
    let picked ← fun m =>
      let (r, c) := pickBackend env m.context
      (.done r, { m with context := c })
    match picked with
    | .error (.config t text) => Run.raise (.director (.config t text))
    | .error e => do
      Run.modifyContext (noBackend e)
      return .error
    | .ok backend => return .ask backend
  | .ask backend => do
    let response ← ask origin backend
    Run.modifyContext (receive backend response)
    return .visit .fetch
  | .error => do
    Run.modifyContext (withState "ERROR")
    return .visit .error
  | .deliver failed => do
    Run.modifyContext fun c => respond failed (withState "DELIVER" c)
    return .visit .deliver
  | .visit s => do
    let ending ← visit env s
    Run.modifyContext (settle s)
    return .after s ending
  | .again => fun m =>
    if m.context.restarts < env.config.maxRestarts then (.done .recv, startOver m)
    else (.failed (.of (.tooManyRestarts env.config.maxRestarts)), m)
  | .finished => return .finished

abbrev Point := Site × Machine

def Goes (env : Environment) (origin : Origin) (a b : Point) : Prop :=
  advance env origin a.1 a.2 = (.done b.1, b.2)

abbrev Ways (env : Environment) (origin : Origin) : Point → Point → Prop :=
  ReflTransGen (Goes env origin)

/-- A way from a point ends so: at a site, or where the lifecycle does not come to the next one. -/
def Leads {α : Type} (env : Environment) (origin : Origin) (site : α → Site) (a : Point) :
    Outcome α × Machine → Prop
  | (.done t, n) => Ways env origin a (site t, n)
  | (.failed f, n) => ∃ b, Ways env origin a b ∧ advance env origin b.1 b.2 = (.failed f, n)
  | (.halted h, n) => ∃ b, Ways env origin a b ∧ advance env origin b.1 b.2 = (.halted h, n)

def Turn.site : Turn → Site
  | .completed => .finished
  | .restart => .again

variable {env : Environment} {origin : Origin} {α : Type} {site : α → Site}

theorem Leads.through {a b : Point} {r : Outcome α × Machine} (h : Ways env origin a b)
    (hr : Leads env origin site b r) : Leads env origin site a r := by
  rcases r with ⟨t | f | _, n⟩
  · exact h.trans hr
  · obtain ⟨c, way, stop⟩ := hr
    exact ⟨c, h.trans way, stop⟩
  · obtain ⟨c, way, stop⟩ := hr
    exact ⟨c, h.trans way, stop⟩

theorem Leads.next {a b : Point} {r : Outcome α × Machine} (h : Goes env origin a b)
    (hr : Leads env origin site b r) : Leads env origin site a r :=
  hr.through (.single h)

theorem advance_enter {s : Site} {scope : Scope} {f : Context → Context}
    (h : s.entry? = some (scope, f)) (m : Machine) :
    advance env origin s m = (.done (.visit scope), { m with context := f m.context }) := by
  cases s <;> cases h <;> rfl

theorem advance_visit (env : Environment) (origin : Origin) (s : Scope) (m : Machine) :
    advance env origin (.visit s) m =
    match visit env s m with
    | (.done e, n) => (.done (.after s e), { n with context := settle s n.context })
    | (.failed f, n) => (.failed f, n)
    | (.halted h, n) => (.halted h, n) := by
  show Run.bind (visit env s) _ m = _
  unfold Run.bind
  rcases visit env s m with ⟨e | g | _, n⟩ <;> rfl

theorem leads_visit {s : Scope} {f : Ending → Run Turn} {m : Machine}
    (hf : ∀ e n, Leads env origin Turn.site (.after s e, { n with context := settle s n.context })
      (f e n)) :
    Leads env origin Turn.site (.visit s, m) ((visit env s >>= f) m) := by
  have visited := advance_visit env origin s m
  show Leads env origin Turn.site (.visit s, m) (Run.bind (visit env s) f m)
  unfold Run.bind
  generalize visit env s m = r at visited
  rcases r with ⟨e | g | _, n⟩
  · exact Leads.next (b := (_, _)) visited (hf e n)
  · exact ⟨_, .refl, visited⟩
  · exact ⟨_, .refl, visited⟩

theorem finish_leads (m : Machine) :
    Leads env origin Turn.site (.visit .log, m) (finish env m) := by
  unfold finish
  rw [discard_bind]
  exact leads_visit fun _ _ => ReflTransGen.refl

theorem deliver_leads (failed : Bool) (m : Machine) :
    Leads env origin Turn.site (.deliver failed, m) (deliver env (respond failed) m) := by
  have made : Goes env origin (.deliver failed, m)
      (.visit .deliver, { m with context := respond failed (withState "DELIVER" m.context) }) := rfl
  refine .next made (leads_visit fun e n => ?_)
  cases e with
  | restart => exact ReflTransGen.refl
  | _ => exact finish_leads n

theorem handleError_leads (m : Machine) :
    Leads env origin Turn.site (.error, m) (handleError env m) := by
  have stated : Goes env origin (.error, m)
      (.visit .error, { m with context := withState "ERROR" m.context }) := rfl
  refine .next stated (leads_visit fun e n => ?_)
  cases e with
  | restart => exact ReflTransGen.refl
  | _ => exact deliver_leads true n

theorem fetched_leads (m : Machine) :
    Leads env origin Turn.site (.visit .fetch, m) (fetched env m) := by
  refine leads_visit fun e n => ?_
  cases e with
  | restart => exact ReflTransGen.refl
  | error => exact handleError_leads n
  | returned state =>
    cases state with
    | error => exact handleError_leads n
    | _ => exact deliver_leads false n

def picked (env : Environment) (m : Machine) : Machine :=
  { m with context := (pickBackend env (withState "FETCH" m.context)).2 }

theorem fetch_eq (m : Machine) : fetch env origin m =
    match (pickBackend env (withState "FETCH" m.context)).1 with
    | .error (.config t text) => (.failed (.of (.director (.config t text))), picked env m)
    | .error e =>
      handleError env { picked env m with context := noBackend e (picked env m).context }
    | .ok backend => Run.bind (ask origin backend) (fun response => Run.bind
        (Run.modifyContext (receive backend response)) fun _ => fetched env) (picked env m) := by
  unfold fetch picked
  simp only [bind, Run.bind, Run.modifyContext, Run.modify]
  rcases (pickBackend env (withState "FETCH" m.context)).1 with (_ | _ | _) | _ <;> rfl

theorem advance_fetch (env : Environment) (origin : Origin) (m : Machine) :
    advance env origin .fetch m =
    match (pickBackend env (withState "FETCH" m.context)).1 with
    | .error (.config t text) => (.failed (.of (.director (.config t text))), picked env m)
    | .error e =>
      (.done .error, { picked env m with context := noBackend e (picked env m).context })
    | .ok backend => (.done (.ask backend), picked env m) := by
  unfold advance picked
  simp only [bind, Run.bind, Run.modifyContext, Run.modify]
  rcases (pickBackend env (withState "FETCH" m.context)).1 with (_ | _ | _) | _ <;> rfl

theorem advance_ask (env : Environment) (origin : Origin) (backend : Option Backend) (m : Machine) :
    advance env origin (.ask backend) m =
    match ask origin backend m with
    | (.done r, n) => (.done (.visit .fetch), { n with context := receive backend r n.context })
    | (.failed f, n) => (.failed f, n)
    | (.halted h, n) => (.halted h, n) := by
  show Run.bind (ask origin backend) _ m = _
  unfold Run.bind
  rcases ask origin backend m with ⟨r | f | _, n⟩ <;> rfl

theorem fetch_leads (m : Machine) :
    Leads env origin Turn.site (.fetch, m) (fetch env origin m) := by
  have went := advance_fetch env origin m
  rw [fetch_eq]
  generalize (pickBackend env (withState "FETCH" m.context)).1 = r at went
  rcases r with (_ | _ | _) | backend
  · exact Leads.next (b := (_, _)) went (handleError_leads _)
  · exact Leads.next (b := (_, _)) went (handleError_leads _)
  · exact ⟨_, .refl, went⟩
  · refine Leads.next (b := (_, _)) went ?_
    have asked := advance_ask env origin backend (picked env m)
    dsimp only
    unfold Run.bind
    generalize ask origin backend (picked env m) = r at asked
    rcases r with ⟨r | f | _, n⟩
    · exact Leads.next (b := (_, _)) asked (fetched_leads _)
    · exact ⟨_, .refl, asked⟩
    · exact ⟨_, .refl, asked⟩

theorem pass_leads (copied : Bool) (m : Machine) :
    Leads env origin Turn.site (.pass copied, m) (pass env origin { m with
      context := if copied then m.context else copyRequest m.context }) := by
  have stated : Goes env origin (.pass copied, m) (.visit .pass, { m with
      context := withState "PASS" (if copied then m.context else copyRequest m.context) }) := rfl
  refine .next stated (leads_visit fun e n => ?_)
  cases e with
  | restart => exact ReflTransGen.refl
  | error => exact handleError_leads n
  | returned state =>
    cases state with
    | error => exact handleError_leads n
    | _ => exact fetch_leads n

theorem miss_leads (m : Machine) : Leads env origin Turn.site (.miss, m) (miss env origin m) := by
  have copied : Goes env origin (.miss, m)
      (.visit .miss, { m with context := withState "MISS" (copyRequest m.context) }) := rfl
  refine .next copied (leads_visit fun e n => ?_)
  cases e with
  | restart => exact ReflTransGen.refl
  | error => exact handleError_leads n
  | returned state =>
    cases state with
    | pass => exact pass_leads true n
    | error => exact handleError_leads n
    | deliverStale => exact deliver_leads false n
    | _ => exact fetch_leads n

theorem lookUp_leads (m : Machine) :
    Leads env origin Turn.site (.hash, m) (lookUp env origin m) := by
  have stated : Goes env origin (.hash, m)
      (.visit .hash, { m with context := withState "HASH" m.context }) := rfl
  refine .next stated ?_
  show Leads env origin Turn.site (.visit .hash, { m with context := withState "HASH" m.context })
    ((discard (visit env .hash) >>= fun _ => _) _)
  rw [discard_bind]
  exact leads_visit fun e n => miss_leads _

theorem round_leads (env : Environment) (origin : Origin) (m : Machine) :
    Leads env origin Turn.site (.recv, m) (round env origin m) := by
  have stated : Goes env origin (.recv, m)
      (.visit .recv, { m with context := withState "RECV" m.context }) := rfl
  refine .next stated (leads_visit fun e n => ?_)
  cases e with
  | restart => exact ReflTransGen.refl
  | error => exact handleError_leads n
  | returned state =>
    cases state with
    | pass => exact pass_leads false n
    | error => exact handleError_leads n
    | _ => exact lookUp_leads n

theorem round_restarts (env : Environment) (origin : Origin) (m : Machine) :
    (round env origin m).2.context.restarts = m.context.restarts := by
  obtain ⟨rest, -, walk⟩ := (round_begins env origin).walk m
  exact walk.leg.restarts

theorem rounds_leads (left : Nat) (m : Machine)
    (hl : env.config.maxRestarts - m.context.restarts = left) :
    Leads env origin (fun _ => .finished) (.recv, m) (rounds env origin left m) := by
  -- on the restarts that are left
  induction left generalizing m with
  | zero =>
    have way := round_leads env origin m
    have restarts := round_restarts env origin m
    rw [rounds_eq]
    generalize round env origin m = r at way restarts
    rcases r with ⟨(_ | _) | f | _, n⟩ <;> dsimp only at restarts ⊢
    · exact way
    · refine ⟨_, way, ?_⟩
      show (if n.context.restarts < env.config.maxRestarts then _ else _) = _
      rw [if_neg (by omega)]
    · exact way
    · exact way
  | succ left ih =>
    have way := round_leads env origin m
    have restarts := round_restarts env origin m
    rw [rounds_eq]
    generalize round env origin m = r at way restarts
    rcases r with ⟨(_ | _) | f | _, n⟩ <;> dsimp only at restarts ⊢
    · exact way
    · have again : Goes env origin (.again, n) (.recv, startOver n) := by
        show (if n.context.restarts < env.config.maxRestarts then _ else _) = _
        rw [if_pos (by omega)]
      refine Leads.through (way.tail again) (ih (startOver n) ?_)
      show env.config.maxRestarts - (n.context.restarts + 1) = left
      omega
    · exact way
    · exact way

theorem process_leads (env : Environment) (origin : Origin) (m : Machine) :
    Leads env origin (fun _ => .finished) (.recv, m) (process env origin m) :=
  rounds_leads _ m rfl

theorem goes_unique {a b c : Point} (h : Goes env origin a b) (h' : Goes env origin a c) :
    b = c := by
  have same : (Outcome.done b.1, b.2) = (.done c.1, c.2) := h.symm.trans h'
  obtain ⟨site, machine⟩ := Prod.mk.inj same
  exact Prod.ext (Outcome.done.inj site) machine

inductive Went (env : Environment) (origin : Origin) : Point → Point → Prop
  | enter {s : Site} {scope : Scope} {f : Context → Context} (m : Machine)
    (ready : s.entry? = some (scope, f)) :
    Went env origin (s, m) (.visit scope, { m with context := f m.context })
  | visit {s : Scope} {e : Ending} {m n : Machine} (ran : visit env s m = (.done e, n)) :
    Went env origin (.visit s, m) (.after s e, { n with context := settle s n.context })
  | fail {e : DirectorError} {m : Machine}
      (refused : (pickBackend env (withState "FETCH" m.context)).1 = .error e)
      (he : ∀ t text, e ≠ .config t text) :
    Went env origin (.fetch, m) (.error,
      { picked env m with context := noBackend e (picked env m).context })
  | pick {backend : Option Backend} {m : Machine}
      (found : (pickBackend env (withState "FETCH" m.context)).1 = .ok backend) :
    Went env origin (.fetch, m) (.ask backend, picked env m)
  | ask {backend : Option Backend} {m : Machine} {r : Response}
      (answered : origin m.fetchCount backend m.context.backendRequest = .ok r) :
    Went env origin (.ask backend, m) (.visit .fetch,
      let asked := m.record (.fetch backend m.context.backendRequest m.context.restarts)
      { asked with context := receive backend r m.context })
  | again {m : Machine} (left : m.context.restarts < env.config.maxRestarts) :
    Went env origin (.again, m) (.recv, startOver m)
  | finished (m : Machine) : Went env origin (.finished, m) (.finished, m)

theorem went_of_eq {a b c : Point} {r : Outcome Site × Machine} (h : r = (.done c.1, c.2))
    (hr : r = (.done b.1, b.2)) (w : Went env origin a b) : Went env origin a c := by
  have same : (Outcome.done b.1, b.2) = (.done c.1, c.2) := hr.symm.trans h
  obtain ⟨site, machine⟩ := Prod.mk.inj same
  rwa [← show b = c from Prod.ext (Outcome.done.inj site) machine]

theorem Goes.went {a b : Point} (h : Goes env origin a b) : Went env origin a b := by
  obtain ⟨s, m⟩ := a
  -- the sites that only prepare a stage are one case
  rcases he : s.entry? with _ | ⟨scope, f⟩
  case some => exact went_of_eq h (b := (_, _)) (advance_enter he m) (.enter m he)
  cases s with
  | visit s =>
    have went := (advance_visit env origin s m).symm.trans h
    generalize hv : Lifecycle.visit env s m = r at went
    rcases r with ⟨e | f | _, n⟩
    · exact went_of_eq went (b := (_, _)) rfl (.visit hv)
    · cases (Prod.mk.inj went).1
    · cases (Prod.mk.inj went).1
  | fetch =>
    have went := (advance_fetch env origin m).symm.trans h
    generalize hp : (pickBackend env (withState "FETCH" m.context)).1 = r at went
    rcases r with (_ | _ | _) | backend
    · exact went_of_eq went (b := (_, _)) rfl (.fail hp nofun)
    · exact went_of_eq went (b := (_, _)) rfl (.fail hp nofun)
    · cases (Prod.mk.inj went).1
    · exact went_of_eq went (b := (_, _)) rfl (.pick hp)
  | ask backend =>
    have went := (advance_ask env origin backend m).symm.trans h
    unfold Lifecycle.ask at went
    dsimp only at went
    generalize ho : origin m.fetchCount backend m.context.backendRequest = r at went
    rcases r with _ | r
    · cases (Prod.mk.inj went).1
    · exact went_of_eq went (b := (_, _)) rfl (.ask ho)
  | again =>
    have went : (if m.context.restarts < env.config.maxRestarts then
        (Outcome.done Site.recv, startOver m)
      else (.failed (.of (.tooManyRestarts env.config.maxRestarts)), m)) = (.done b.1, b.2) := h
    split at went
    · exact went_of_eq went (b := (_, _)) rfl (.again ‹_›)
    · cases (Prod.mk.inj went).1
  | finished => exact went_of_eq h (b := (.finished, m)) rfl (.finished m)
  | _ => cases he

theorem advance_moves (env : Environment) (origin : Origin) (s : Site) :
    Moves env origin (advance env origin s) := by
  have respond_changes (failed : Bool) : Change env (respond failed) := by
    cases failed
    · exact .fetched
    · exact .object
  cases s with
  | recv | hash | error => exact (moves_change (.state _)).bind fun _ => moves_pure _
  | miss => exact ⟨fun m => (ReflTransGen.single (.change m .copy)).tail (.change _ (.state _))⟩
  | pass copied =>
    cases copied
    · exact ⟨fun m => (ReflTransGen.single (.change m .copy)).tail (.change _ (.state _))⟩
    · exact ⟨fun m => .single (.change m (.state _))⟩
  | fetch =>
    refine (moves_change (.state _)).bind fun _ => Moves.bind ⟨fun m => .single (.change m .pick)⟩
      fun picked => ?_
    split
    · exact moves_raise _
    · exact (moves_change (.noBackend _)).bind fun _ => moves_pure _
    · exact moves_pure _
  | ask backend =>
    have asked : Moves env origin (Lifecycle.ask origin backend) :=
      ⟨fun m => .single (.ask m backend)⟩
    exact asked.bind fun r => (moves_change (.receive backend r)).bind fun _ => moves_pure _
  | deliver failed =>
    exact (moves_handedOn.respond (respond_changes failed) _).bind fun _ => moves_pure _
  | visit s =>
    refine (moves_handedOn.visit s).bind fun e => Moves.bind ?_ fun _ => moves_pure _
    unfold settle
    split
    · exact moves_change .hash
    · exact ⟨fun _ => .refl⟩
  | again =>
    refine ⟨fun m => ?_⟩
    unfold advance
    dsimp only
    split
    · exact (ReflTransGen.single (.again m)).tail (.change _ .restart)
    · exact .refl
  | finished => exact moves_pure _

theorem Ways.steps {a b : Point} (h : Ways env origin a b) :
    ReflTransGen (Step env origin) a.2 b.2 := by
  induction h with
  | refl => exact .refl
  | @tail b c _ step ih =>
    have moved := (advance_moves env origin b.1).steps b.2
    have went : advance env origin b.1 b.2 = (.done c.1, c.2) := step
    rw [went] at moved
    exact ih.trans moved

def travel (env : Environment) (origin : Origin) : Nat → Point → Point
  | 0, a => a
  | n + 1, a =>
    match advance env origin a.1 a.2 with
    | (.done s, m) => travel env origin n (s, m)
    | _ => a

theorem ways_travel (env : Environment) (origin : Origin) (n : Nat) (a : Point) :
    Ways env origin a (travel env origin n a) := by
  induction n generalizing a with
  | zero => exact .refl
  | succ n ih =>
    unfold travel
    split
    · exact (ih _).head ‹_›
    · exact .refl

theorem ways_finished {b : Point} {m : Machine} (h : Ways env origin (.finished, m) b) :
    b = (.finished, m) := by
  induction h with
  | refl => rfl
  | tail _ step ih =>
    rw [ih] at step
    cases step.went with
    | enter _ ready => cases ready
    | finished => rfl

theorem ways_stuck {a b : Point} {r : Outcome Site} {n : Machine} (h : Ways env origin a b)
    (stuck : advance env origin a.1 a.2 = (r, n)) (hr : ∀ s, r ≠ .done s) : b = a := by
  rcases h.cases_head with rfl | ⟨c, step, -⟩
  · rfl
  · have same : (Outcome.done c.1, c.2) = (r, n) := step.symm.trans stuck
    exact absurd (Prod.mk.inj same).1.symm (hr c.1)

theorem leads_of_ways {a b : Point} {r : Outcome Unit × Machine} (h : Ways env origin a b)
    (hr : Leads env origin (fun _ => .finished) a r) :
    Leads env origin (fun _ => .finished) b r := by
  have linear : Relator.RightUnique (Goes env origin) := fun _ _ _ => goes_unique
  -- there is one way only, and nothing lies behind its end
  have before {c : Point} {r : Outcome Site} {n : Machine} (way : Ways env origin a c)
      (stop : advance env origin c.1 c.2 = (r, n)) (hr : ∀ s, r ≠ .done s) :
      Ways env origin b c := by
    rcases ReflTransGen.total_of_right_unique linear h way with on | back
    · exact on
    · rw [ways_stuck back stop hr]
  rcases r with ⟨t | f | _, n⟩
  · rcases ReflTransGen.total_of_right_unique linear h hr with on | back
    · exact on
    · cases ways_finished back
      exact ReflTransGen.refl
  · obtain ⟨c, way, stop⟩ := hr
    exact ⟨c, before way stop nofun, stop⟩
  · obtain ⟨c, way, stop⟩ := hr
    exact ⟨c, before way stop nofun, stop⟩

def Site.mark? (m : Machine) : Site → Option Mark
  | visit s => some (.event (.stage s m.context.restarts))
  | ask backend => some (.event (.fetch backend m.context.backendRequest m.context.restarts))
  | again => some .again
  | _ => none

def Marked (a : Point) (n : Machine) : Prop :=
  ∃ inner, n.history = a.2.history ++ ((a.1.mark? a.2).toList ++ inner) ∧ ∀ k ∈ inner, k.IsInner

theorem Marked.of_history {a : Point} {n : Machine}
    (h : n.history = a.2.history ++ (a.1.mark? a.2).toList) : Marked a n :=
  ⟨[], by rw [h, List.append_nil], nofun⟩

theorem visit_marked (env : Environment) (s : Scope) (m : Machine) :
    Marked (.visit s, m) (visit env s m).2 := by
  let start := m.record (.stage s m.context.restarts)
  have begun : start.history = m.history ++ [.event (.stage s m.context.restarts)] :=
    m.history_note _
  have ran := Discipline.subroutine_verdict (d := inside env) s.subroutine s start
  have through {e : Option Ending} {n : Machine} (h : (inside env).run (start.atStage s) e n) :
      Marked (.visit s, m) n := by
    obtain ⟨inner, hn, hi⟩ := h.2
    refine ⟨inner, ?_, hi⟩
    rw [hn]
    show start.history ++ inner = _
    rw [begun, List.append_assoc]
    rfl
  show Marked (.visit s, m) (Run.bind (Run.subroutine env s.subroutine s) (fun e =>
      Run.bind (Run.modifyContext (noteState e)) fun _ => Run.pure e) start).2
  unfold Run.bind
  generalize Run.subroutine env s.subroutine s start = r at ran
  rcases r with ⟨e | f | _, n⟩
  · obtain ⟨p, hp, rfl⟩ := ran
    obtain ⟨inner, hn, hi⟩ := through hp
    exact ⟨inner, hn, hi⟩
  · exact through ran.2
  · exact through ran

theorem advance_marked (env : Environment) (origin : Origin) (s : Site) (m : Machine)
    (hs : s ≠ .again) :
    Marked (s, m) (advance env origin s m).2 := by
  cases s with
  | visit s =>
    have visited := visit_marked env s m
    rw [advance_visit]
    generalize visit env s m = r at visited
    rcases r with ⟨e | f | _, n⟩
    · obtain ⟨inner, hn, hi⟩ := visited
      exact ⟨inner, hn, hi⟩
    · exact visited
    · exact visited
  | ask backend =>
    have asked : Marked (.ask backend, m) (ask origin backend m).2 := by
      unfold ask
      dsimp only
      split <;> exact .of_history (m.history_note _)
    rw [advance_ask]
    generalize ask origin backend m = r at asked
    rcases r with ⟨r | f | _, n⟩
    · obtain ⟨inner, hn, hi⟩ := asked
      exact ⟨inner, hn, hi⟩
    · exact asked
    · exact asked
  | fetch =>
    rw [advance_fetch]
    split <;> exact .of_history (List.append_nil _).symm
  | again => exact absurd rfl hs
  | _ => exact .of_history (List.append_nil _).symm

theorem Goes.marked {a b : Point} (h : Goes env origin a b) : Marked a b.2 := by
  obtain ⟨s, m⟩ := a
  by_cases hs : s = .again
  · subst hs
    cases h.went with
    | enter _ ready => cases ready
    | again => exact .of_history (m.history_note .again)
  · have marked := advance_marked env origin s m hs
    have went : advance env origin s m = (.done b.1, b.2) := h
    rwa [went] at marked

end EdgeCache.Lifecycle
