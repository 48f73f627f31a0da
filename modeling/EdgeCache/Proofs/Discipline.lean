import EdgeCache.Proofs.Contract

/-! Relations between the machines before and after a run that hold of every program, whatever its
values are. A discipline says what such a relation has to satisfy at the primitive acts. -/

namespace EdgeCache

/-- `run m e n` is to hold of runs from `m` to `n`, where `e` is what they end the stage with, if
they do. -/
structure Discipline (env : Environment) where
  run : Machine → Option Ending → Machine → Prop
  refl : ∀ m, run m none m
  trans : ∀ {m n p e}, run m none n → run n e p → run m e p
  scope : ∀ {m e n}, run m e n → n.context.scope = m.context.scope
  act : ∀ {P m n}, Act env P m n → run m none n
  restart : ∀ {m}, m.context.scope.allowsRestart = true →
    run m (some .restart) (m.transfer .restart)
  error : ∀ {m} status text, m.context.scope.allowsError = true →
    run m (some (.error status text)) (m.raise status text)
  framed : ∀ {m f e n} locals, run (m.push f) e n → run m (f.passes e) (n.pop locals)

namespace Discipline

variable {env : Environment}

def contract (d : Discipline env) : Contract env where
  text _ := True
  value _ := True
  holds _ := True
  run := d.run
  declared _ _ _ _ _ := trivial
  literal _ := trivial
  made _ := trivial
  read _ _ := trivial
  refl := d.refl
  trans := d.trans
  scope := d.scope
  act _ h := ⟨trivial, d.act h⟩
  restart _ h := ⟨trivial, d.restart h⟩
  error status text _ h := ⟨trivial, d.error status text h⟩
  push _ _ := trivial
  pop _ _ := trivial
  framed := d.framed

variable {d : Discipline env}

def FlowVerdict (d : Discipline env) (m : Machine) : Outcome Flow × Machine → Prop
  | (.done flow, n) => d.run m (flow.stop n.context) n
  | (.failed f, n) => f.cause.isLocal = true ∧ d.run m none n
  | (.halted _, n) => d.run m none n

theorem runFrom_verdict (n : Nat) (whole rest : List Statement) (m : Machine) :
    d.FlowVerdict m (Run.runFrom env n whole rest m) := by
  have flows : d.contract.Flows (Run.runFrom env n whole rest) :=
    Contract.flows_runFrom n (fun _ _ _ _ => trivial) fun _ _ _ _ => trivial
  have ran := flows.verdict (m := m) trivial
  generalize Run.runFrom env n whole rest m = r at ran
  rcases r with ⟨flow | f | _, n⟩
  · exact ran.2.1
  · exact ⟨ran.1, ran.2.2⟩
  · exact ran.2

def StageVerdict (d : Discipline env) (m : Machine) : Outcome Ending × Machine → Prop
  | (.done e, n) => ∃ p, d.run m e.stop p ∧ n = p.ended e
  | (.failed f, n) => f.cause.isLocal = true ∧ d.run m none n
  | (.halted _, n) => d.run m none n

theorem subroutine_verdict (name : String) (s : Scope) (m : Machine) :
    d.StageVerdict (m.atStage s) (Run.subroutine env name s m) := by
  have ran := Contract.subroutine_verdict (d := d.contract) (m := m) name s trivial
  generalize Run.subroutine env name s m = r at ran
  rcases r with ⟨e | f | _, n⟩
  · obtain ⟨p, -, ran, -, hn⟩ := ran
    exact ⟨p, ran, hn⟩
  · exact ⟨ran.1, ran.2.2⟩
  · exact ran.2

end Discipline

end EdgeCache
