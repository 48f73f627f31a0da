import EdgeCache.Proofs.Laws
import EdgeCache.Run.Statement
import Mathlib.Logic.Relation

/-! The control in the body of a subroutine, step by step. A list of statements is a layer that lies
over the one in which its own statement stands; a flow goes outwards through the layers until one of
them takes it. -/

namespace EdgeCache

open Relation (ReflTransGen)

inductive Around where
  | plain
  | case (fallthrough : Bool) (later : List Case)

structure Layer where
  whole : List Statement
  rest : List Statement
  around : Around

def Layer.ofCase (c : Case) (later : List Case) : Layer :=
  ⟨c.body, c.body, .case c.fallthrough later⟩

def Layer.ofList (b : List Statement) : Layer := ⟨b, b, .plain⟩

inductive Control where
  | running (layers : List Layer)
  | stopped (flow : Flow)
  | failed (s : Statement) (f : Failure)

namespace Control

def carry : Flow → List Layer → Control
  | flow, [] => stopped flow
  | .next, layers => running layers
  | .leave, l :: outer =>
    match l.around with
    | .plain => carry .leave outer
    | .case .. => carry .next outer
  | .goto label, l :: outer =>
    match Run.afterLabel? label l.whole with
    | some rest => running ({ l with rest := rest } :: outer)
    | none => carry (.goto label) outer
  | flow, _ :: outer => carry flow outer

def close (outer : List Layer) : Around → Control
  | .case true (c :: later) => running (.ofCase c later :: outer)
  | _ => carry .next outer

def exit (around : Around) : Flow → List Layer → Control
  | .next, outer => close outer around
  | .leave, outer =>
    match around with
    | .plain => carry .leave outer
    | .case .. => carry .next outer
  | flow, outer => carry flow outer

theorem exit_plain (flow : Flow) (outer : List Layer) :
    exit .plain flow outer = carry flow outer := by
  cases flow <;> rfl

end Control

/-- What a statement comes to by itself: other lists are to run, or control is handed on. -/
inductive Deal where
  | opens (b : List Statement)
  | enters (c : Case) (later : List Case)
  | hands (flow : Flow)

namespace Deal

def ofBody : Option (List Statement) → Deal
  | some b => opens b
  | none => hands .next

def ofCases : List Case → Deal
  | c :: later => enters c later
  | [] => hands .next

end Deal

namespace Run

def choice (value : Evaluator) (last : Option (List Statement)) :
    List ElseIf → Run (Option (List Statement))
  | [] => pure last
  | .mk c b :: rest => do
    let yes ← condition value c
    if yes then return some b else choice value last rest

def chosen (value : Evaluator) (control : Expression) (cases : List Case) (default : Option Nat) :
    Run (List Case) := do
  let subject ← value control
  let taken ← casesFrom subject.text cases
  match taken, default with
  | some cs, _ => return cs
  | none, some i => return cases.drop i
  | none, none => return []

def deal (env : Environment) (n : Nat) (s : Statement) : Run Deal :=
  match s with
  | .block _ b => pure (.opens b)
  | .branch t c a others last => pinned t do
    let b ← choice (evaluate env n) last (.mk c a :: others)
    return .ofBody b
  | .switch t e cases default => pinned t do
    let cs ← chosen (evaluate env n) e cases default
    return .ofCases cs
  | s => do
    let flow ← executeWith env (evaluate env n) (fun b => runFrom env n b b) s
    return .hands flow

def resume (body : Runner) (t : Token) : Deal → Run Flow
  | .opens b => pinned t (body b)
  | .enters c later => pinned t (runCases body (c :: later))
  | .hands flow => pure flow

variable {value : Evaluator} {body : Runner}

theorem firstOf_eq (others : List ElseIf) (last : Option (List Statement)) :
    firstOf value body (match last with
      | some b => body b
      | none => pure .next) others =
    Run.bind (choice value last others) fun
      | some b => body b
      | none => pure .next := by
  induction others with
  | nil => cases last <;> rfl
  | cons other rest ih =>
    obtain ⟨c, b⟩ := other
    show Run.bind (condition value c) _ = Run.bind (Run.bind (condition value c) _) _
    rw [bind_assoc]
    congr 1
    funext yes
    cases yes
    · exact ih
    · rfl

theorem branch_eq (c : Expression) (a : List Statement) (others : List ElseIf)
    (last : Option (List Statement)) :
    branch value body c a others last = Run.bind (choice value last (.mk c a :: others)) fun
      | some b => body b
      | none => pure .next := by
  rw [← firstOf_eq]
  cases last <;> rfl

theorem switch_eq (control : Expression) (cases : List Case) (default : Option Nat) :
    switch value body control cases default =
      Run.bind (chosen value control cases default) (runCases body) := by
  show Run.bind (value control) _ = Run.bind (Run.bind (value control) _) _
  rw [bind_assoc]
  congr 1
  funext subject
  show Run.bind (casesFrom subject.text cases) _ =
    Run.bind (Run.bind (casesFrom subject.text cases) _) _
  rw [bind_assoc]
  congr 1
  funext taken
  cases taken
  · cases default <;> rfl
  · rfl

theorem pinned_choice {α : Type} (t : Token) (x : Run α) (made : α → Deal) (f : α → Run Flow)
    (hf : ∀ a, pinned t (f a) = resume body t (made a)) :
    pinned t (Run.bind x f) = Run.bind (pinned t (Run.bind x fun a => pure (made a)))
      (resume body t) := by
  rw [pinned_bind, pinned_bind, bind_assoc]
  congr 1
  funext a
  exact hf a

theorem executeWith_eq (env : Environment) (n : Nat) (s : Statement) :
    executeWith env (evaluate env n) (fun b => runFrom env n b b) s =
      Run.bind (deal env n s) (resume (fun b => runFrom env n b b) s.token) := by
  have simple (x : Run Flow) : x = Run.bind (Run.bind x fun flow => pure (.hands flow))
      (resume (fun b => runFrom env n b b) s.token) := by
    rw [bind_assoc]
    exact (bind_pure x).symm
  cases s with
  | block t b => rfl
  | branch t c a others last =>
    show pinned t (branch _ _ c a others last) = _
    rw [branch_eq]
    refine pinned_choice t _ Deal.ofBody _ fun b => ?_
    cases b <;> rfl
  | switch t e cases default =>
    show pinned t (switch _ _ e cases default) = _
    rw [switch_eq]
    refine pinned_choice t _ Deal.ofCases _ fun cs => ?_
    cases cs <;> rfl
  | _ => exact simple _

theorem deal_pinned {env : Environment} {n : Nat} {s : Statement} {m m' : Machine} {f : Failure}
    (h : deal env n s m = (.failed f, m')) : f.token.isSome = true := by
  have ran : Run.bind (deal env n s) (resume (fun b => runFrom env n b b) s.token) m =
      (.failed f, m') := by
    unfold Run.bind
    rw [h]
  rw [← executeWith_eq] at ran
  unfold executeWith pinned at ran
  split at ran
  · cases ran
    exact Failure.isSome_token_pin ..
  · rename_i failed
    exact absurd ran (failed f m')

end Run

namespace Control

def ofDeal : Deal → List Layer → Control
  | .opens b, layers => running (.ofList b :: layers)
  | .enters c later, layers => running (.ofCase c later :: layers)
  | .hands flow, layers => carry flow layers

abbrev State := Control × Machine

inductive Step (env : Environment) : State → State → Prop
  | close {whole : List Statement} {around : Around} {outer : List Layer} {m : Machine} :
    Step env (running (⟨whole, [], around⟩ :: outer), m) (close outer around, m)
  | deal {n : Nat} {whole : List Statement} {s : Statement} {rest : List Statement}
    {around : Around}
    {outer : List Layer} {m m' : Machine} {d : Deal}
    (ran : Run.deal env n s (m.note (.statement s)) = (.done d, m')) :
    Step env (running (⟨whole, s :: rest, around⟩ :: outer), m)
      (ofDeal d (⟨whole, rest, around⟩ :: outer), m')
  | fail {n : Nat} {whole : List Statement} {s : Statement} {rest : List Statement}
    {around : Around}
    {outer : List Layer} {m m' : Machine} {f : Failure}
    (ran : Run.deal env n s (m.note (.statement s)) = (.failed f, m')) :
    Step env (running (⟨whole, s :: rest, around⟩ :: outer), m) (failed s f, m')

abbrev Path (env : Environment) : State → State → Prop := ReflTransGen (Step env)

/-- The machine with which a run is halted: given up at once, or halted within the next
statement. -/
def Halts (env : Environment) (a : State) (h : Halt) (n : Machine) : Prop :=
  h = .exhausted ∧ a.2 = n ∨ ∃ k whole s rest around outer,
    a.1 = running (⟨whole, s :: rest, around⟩ :: outer) ∧
    Run.deal env k s (a.2.note (.statement s)) = (.halted h, n)

def Lands (env : Environment) (a : State) (out : Flow → Control) : Outcome Flow × Machine → Prop
  | (.done flow, n) => Path env a (out flow, n)
  | (.failed f, n) => f.token.isSome = true ∧ ∃ s, Path env a (failed s f, n)
  | (.halted h, n) => ∃ b, Path env a b ∧ Halts env b h n

variable {env : Environment} {a b : State} {out out' : Flow → Control}

theorem Lands.through {r : Outcome Flow × Machine} (path : Path env a b) (h : Lands env b out r) :
    Lands env a out r := by
  rcases r with ⟨flow | f | _, n⟩
  · exact path.trans h
  · obtain ⟨pinned, s, rest⟩ := h
    exact ⟨pinned, s, path.trans rest⟩
  · obtain ⟨c, rest, halts⟩ := h
    exact ⟨c, path.trans rest, halts⟩

theorem Lands.bind {x : Run Flow} {f : Flow → Run Flow} {m : Machine} (hx : Lands env a out (x m))
    (hf : ∀ flow n, Lands env (out flow, n) out' (f flow n)) :
    Lands env a out' (Run.bind x f m) := by
  unfold Run.bind
  generalize x m = r at hx
  rcases r with ⟨flow | g | _, n⟩
  · exact (hf flow n).through hx
  · exact hx
  · exact hx

theorem Lands.pinned {x : Run Flow} {m : Machine} (t : Token) (h : Lands env a out (x m)) :
    Lands env a out (Run.pinned t x m) := by
  unfold Run.pinned
  generalize x m = r at h
  rcases r with ⟨flow | f | _, n⟩
  · exact h
  · obtain ⟨pinned, rest⟩ := h
    show Lands env a out (.failed (f.pin t), n)
    rw [Failure.pin_of_isSome t pinned]
    exact ⟨pinned, rest⟩
  · exact h

theorem lands_carry {n : Nat} {whole rest : List Statement} {around : Around} {outer : List Layer}
    {flow : Flow} {m : Machine}
    (hr : ∀ rest m, Lands env (running (⟨whole, rest, around⟩ :: outer), m) (exit around · outer)
      (Run.runFrom env n whole rest m)) :
    Lands env (carry flow (⟨whole, rest, around⟩ :: outer), m) (exit around · outer)
      (match (Outcome.done flow, m) with
        | (.done .next, m) => Run.runFrom env n whole rest m
        | (.done (.goto l), m) =>
          match Run.afterLabel? l whole with
          | some rest => Run.runFrom env n whole rest m
          | none => (.done (.goto l), m)
        | other => other) := by
  cases flow with
  | next => exact hr rest m
  | goto l =>
    show Lands env (carry (.goto l) (⟨whole, rest, around⟩ :: outer), m) (exit around · outer)
      (match Run.afterLabel? l whole with
        | some rest => Run.runFrom env n whole rest m
        | none => (.done (.goto l), m))
    cases found : Run.afterLabel? l whole with
    | some after =>
      have there : carry (.goto l) (⟨whole, rest, around⟩ :: outer) =
          running (⟨whole, after, around⟩ :: outer) := by
        simp only [carry, found]
      rw [there]
      exact hr after m
    | none =>
      have outside : carry (.goto l) (⟨whole, rest, around⟩ :: outer) = carry (.goto l) outer := by
        simp only [carry, found]
      rw [outside]
      exact .refl
  | _ => exact .refl

theorem runCases_lands {n : Nat} {layers : List Layer} (c : Case) (later : List Case) (m : Machine)
    (hb : ∀ b around m, Lands env (running (⟨b, b, around⟩ :: layers), m) (exit around · layers)
      (Run.runFrom env n b b m)) :
    Lands env (running (.ofCase c later :: layers), m) (carry · layers)
      (Run.runCases (fun b => Run.runFrom env n b b) (c :: later) m) := by
  induction later generalizing c m with
  | nil =>
    refine Lands.bind (hb c.body _ m) fun flow m => ?_
    cases flow <;> first | exact .refl | skip
    show Lands env (close layers (.case c.fallthrough []), m) _ _
    cases c.fallthrough <;> exact .refl
  | cons c' later ih =>
    refine Lands.bind (hb c.body _ m) fun flow m => ?_
    cases flow <;> first | exact .refl | skip
    show Lands env (close layers (.case c.fallthrough (c' :: later)), m) (carry · layers)
      ((if c.fallthrough then Run.runCases (fun b => Run.runFrom env n b b) (c' :: later) else
        pure .next) _)
    cases c.fallthrough
    · exact .refl
    · exact ih c' _

theorem executeWith_lands {n : Nat} {whole rest : List Statement} {s : Statement} {around : Around}
    {outer : List Layer} (m : Machine)
    (hb : ∀ b around layers m, Lands env (running (⟨b, b, around⟩ :: layers), m)
      (exit around · layers) (Run.runFrom env n b b m)) :
    Lands env (running (⟨whole, s :: rest, around⟩ :: outer), m)
      (carry · (⟨whole, rest, around⟩ :: outer))
      (Run.executeWith env (Run.evaluate env n) (fun b => Run.runFrom env n b b) s
        (m.note (.statement s))) := by
  rw [Run.executeWith_eq]
  unfold Run.bind
  cases hd : Run.deal env n s (m.note (.statement s)) with
  | mk r m' =>
    cases r with
    | done d =>
      refine Lands.through (.single (.deal hd)) ?_
      cases d with
      | opens b =>
        have ran := hb b .plain (⟨whole, rest, around⟩ :: outer) m'
        simp only [exit_plain] at ran
        exact ran.pinned s.token
      | enters c later =>
        exact (runCases_lands c later m' fun b around m => hb b around _ m).pinned s.token
      | hands flow => exact .refl
    | failed f => exact ⟨Run.deal_pinned hd, s, .single (.fail hd)⟩
    | halted h => exact ⟨_, .refl, .inr ⟨n, whole, s, rest, around, outer, rfl, hd⟩⟩

theorem runFrom_lands (n : Nat) (whole rest : List Statement) (around : Around) (outer : List Layer)
    (m : Machine) :
    Lands env (running (⟨whole, rest, around⟩ :: outer), m) (exit around · outer)
      (Run.runFrom env n whole rest m) := by
  -- on how deep the run may go
  induction n generalizing whole rest around outer m with
  | zero =>
    rw [Run.runFrom]
    exact ⟨_, .refl, .inl ⟨rfl, rfl⟩⟩
  | succ n ih =>
    cases rest with
    | nil =>
      rw [Run.runFrom]
      exact .single .close
    | cons s rest =>
      have ran : Lands env (running (⟨whole, s :: rest, around⟩ :: outer), m)
          (carry · (⟨whole, rest, around⟩ :: outer))
          (Run.executeWith env (Run.evaluate env n) (fun b => Run.runFrom env n b b) s
            (m.note (.statement s))) :=
        executeWith_lands m fun b around layers m => ih b b around layers m
      -- the list goes on where it takes the flow of the statement
      rw [Run.runFrom]
      generalize Run.executeWith env (Run.evaluate env n) (fun b => Run.runFrom env n b b) s _ =
        r at ran
      rcases r with ⟨flow | f | _, m'⟩
      · exact (lands_carry fun rest m => ih whole rest around outer m).through ran
      · exact ran
      · exact ran

end Control

end EdgeCache
