import EdgeCache.Lifecycle.Stages
import Mathlib.Logic.Relation

/-! The way of a request as single steps: what the lifecycle does by itself, and the runs of the
subroutines between. -/

namespace EdgeCache.Lifecycle

open Relation (ReflTransGen)

inductive Change (env : Environment) : (Context → Context) → Prop
  | state (text : String) : Change env (withState text)
  | ended (e : Ending) : Change env (noteState e)
  | copy : Change env copyRequest
  | hash : Change env fillHash
  | pick : Change env fun c => (pickBackend env c).2
  | noBackend (e : DirectorError) : Change env (noBackend e)
  | receive (b : Option Backend) (r : Response) : Change env (receive b r)
  | object : Change env respondWithObject
  | fetched : Change env respondWithFetched
  | restart : Change env Context.prepareRestart

inductive Step (env : Environment) (origin : Origin) : Machine → Machine → Prop
  | stage (m : Machine) (s : Scope) : Step env origin m (m.record (.stage s m.context.restarts))
  | subroutine (m : Machine) (s : Scope) : Step env origin m (Run.subroutine env s.subroutine s m).2
  | ask (m : Machine) (b : Option Backend) : Step env origin m (ask origin b m).2
  | again (m : Machine) : Step env origin m (m.note .again)
  | change (m : Machine) {f : Context → Context} (hf : Change env f) :
    Step env origin m { m with context := f m.context }

/-- A property of runs that the single steps of the lifecycle have, and that one run after another
has if both have it. -/
structure HandedOn (env : Environment) (origin : Origin) (P : ∀ α : Type, Run α → Prop) : Prop where
  pure : ∀ {α} (a : α), P α (pure a)
  raise : ∀ {α} (c : Cause), P α (Run.raise c)
  bind : ∀ {α β} {x : Run α} {f : α → Run β}, P α x → (∀ a, P β (f a)) → P β (x >>= f)
  stage : ∀ s, P Unit (Run.modify fun m => m.record (.stage s m.context.restarts))
  subroutine : ∀ s, P Ending (Run.subroutine env s.subroutine s)
  ask : ∀ b, P Response (ask origin b)
  again : P Unit (Run.modify fun m => m.note .again)
  change : ∀ {f}, Change env f → P Unit (Run.modifyContext f)
  pick : P _ fun m => (.done (pickBackend env m.context).1,
    { m with context := (pickBackend env m.context).2 })

namespace HandedOn

variable {env : Environment} {origin : Origin} {P : ∀ α : Type, Run α → Prop}
    (h : HandedOn env origin P)
include h

theorem respond {respond : Context → Context} (hr : Change env respond) (text : String) :
    P Unit (Run.modifyContext fun c => respond (withState text c)) :=
  h.bind (h.change (.state text)) fun _ => h.change hr

theorem visit (s : Scope) : P Ending (visit env s) :=
  h.bind (h.stage s) fun _ => h.bind (h.subroutine s) fun e => h.bind (h.change (.ended e)) fun _ =>
    h.pure e

theorem finish : P Turn (finish env) := by
  have last : P Unit (discard (Lifecycle.visit env .log)) :=
    h.bind (h.visit .log) fun _ => h.pure ()
  exact h.bind last fun _ => h.pure _

theorem deliver {respond : Context → Context} (hr : Change env respond) :
    P Turn (deliver env respond) := by
  refine h.bind (h.respond hr _) fun _ => h.bind (h.visit _) fun ending => ?_
  split
  · exact h.pure _
  · exact h.finish

theorem handleError : P Turn (handleError env) := by
  refine h.bind (h.change (.state _)) fun _ => h.bind (h.visit _) fun ending => ?_
  split
  · exact h.pure _
  · exact h.deliver .object

theorem fetched : P Turn (fetched env) := by
  refine h.bind (h.visit _) fun ending => ?_
  split
  · exact h.handleError
  · exact h.handleError
  · exact h.pure _
  · exact h.deliver .fetched

theorem fetch : P Turn (fetch env origin) := by
  refine h.bind (h.change (.state _)) fun _ => h.bind h.pick fun picked => ?_
  split
  · exact h.raise _
  · exact h.bind (h.change (.noBackend _)) fun _ => h.handleError
  · rename_i backend
    exact h.bind (h.ask backend) fun r => h.bind (h.change (.receive backend r)) fun _ => h.fetched

theorem pass : P Turn (pass env origin) := by
  refine h.bind (h.change (.state _)) fun _ => h.bind (h.visit _) fun ending => ?_
  split
  · exact h.handleError
  · exact h.handleError
  · exact h.pure _
  · exact h.fetch

theorem miss : P Turn (miss env origin) := by
  have copied : P Unit (Run.modifyContext fun c => withState "MISS" (copyRequest c)) :=
    h.bind (h.change .copy) fun _ => h.change (.state _)
  refine h.bind copied fun _ => h.bind (h.visit _) fun ending => ?_
  split
  · exact h.pass
  · exact h.handleError
  · exact h.handleError
  · exact h.deliver .fetched
  · exact h.pure _
  · exact h.fetch

theorem lookUp : P Turn (lookUp env origin) := by
  have hashed : P Unit (discard (Lifecycle.visit env .hash)) :=
    h.bind (h.visit .hash) fun _ => h.pure ()
  refine h.bind (h.change (.state _)) fun _ => h.bind hashed fun _ => ?_
  exact h.bind (h.change .hash) fun _ => h.miss

theorem round : P Turn (round env origin) := by
  refine h.bind (h.change (.state _)) fun _ => h.bind (h.visit _) fun ending => ?_
  split
  · exact h.bind (h.change .copy) fun _ => h.pass
  · exact h.handleError
  · exact h.handleError
  · exact h.pure _
  · exact h.lookUp

theorem rounds (left : Nat) : P Unit (rounds env origin left) := by
  induction left with
  | zero =>
    refine h.bind h.round fun turn => ?_
    split
    · exact h.pure _
    · exact h.raise _
  | succ left ih =>
    refine h.bind h.round fun turn => ?_
    split
    · exact h.pure _
    · exact h.bind h.again fun _ => h.bind (h.change .restart) fun _ => ih

end HandedOn

structure Moves (env : Environment) (origin : Origin) {α : Type} (x : Run α) : Prop where
  steps : ∀ m, ReflTransGen (Step env origin) m (x m).2

variable {env : Environment} {origin : Origin} {α β : Type}

theorem moves_pure (a : α) : Moves env origin (pure a : Run α) := ⟨fun _ => .refl⟩

theorem moves_raise (c : Cause) : Moves env origin (Run.raise c : Run α) := ⟨fun _ => .refl⟩

theorem Moves.bind {x : Run α} {f : α → Run β} (hx : Moves env origin x)
    (hf : ∀ a, Moves env origin (f a)) : Moves env origin (x >>= f) := by
  refine ⟨fun m => ?_⟩
  have first := hx.steps m
  show ReflTransGen _ m (Run.bind x f m).2
  unfold Run.bind
  generalize x m = r at first
  rcases r with ⟨a | f | _, n⟩
  · exact first.trans ((hf a).steps n)
  · exact first
  · exact first

theorem moves_change {f : Context → Context} (hf : Change env f) :
    Moves env origin (Run.modifyContext f) :=
  ⟨fun m => .single (.change m hf)⟩

theorem moves_handedOn : HandedOn env origin fun _ x => Moves env origin x where
  pure := moves_pure
  raise := moves_raise
  bind := Moves.bind
  stage s := ⟨fun m => .single (.stage m s)⟩
  subroutine s := ⟨fun m => .single (.subroutine m s)⟩
  ask b := ⟨fun m => .single (.ask m b)⟩
  again := ⟨fun m => .single (.again m)⟩
  change := moves_change
  pick := ⟨fun m => .single (.change m .pick)⟩

theorem process_steps (m : Machine) : ReflTransGen (Step env origin) m (process env origin m).2 :=
  (moves_handedOn.rounds _).steps m

end EdgeCache.Lifecycle
