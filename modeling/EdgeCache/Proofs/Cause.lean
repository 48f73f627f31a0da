import EdgeCache.Run.Subroutine

/-! The causes with which a program itself can fail. Those of the configuration, of directors, of
the origin and of the limit on restarts are not among them. -/

namespace EdgeCache

def Cause.isLocal : Cause → Bool
  | .director _ | .config _ | .tooManyRestarts _ | .origin _ => false
  | _ => true

def Stop.isLocal : Stop Cause → Bool
  | .cause c => c.isLocal
  | .panic => true

structure Errs {ε α : Type} (p : ε → Bool) (r : Except ε α) : Prop where
  holds : ∀ e, r = .error e → p e = true

abbrev Tame {α : Type} (r : Except Cause α) : Prop := Errs Cause.isLocal r

abbrev TameStop {α : Type} (r : Except (Stop Cause) α) : Prop := Errs Stop.isLocal r

namespace Errs

variable {δ ε α β : Type} {p : ε → Bool}

theorem ok (a : α) : Errs p (.ok a) := ⟨fun _ h => nomatch h⟩

theorem error {e : ε} (h : p e = true) : Errs p (.error e : Except ε α) :=
  ⟨fun _ he => by cases he; exact h⟩

theorem bind {r : Except ε α} {f : α → Except ε β} (hr : Errs p r) (hf : ∀ a, Errs p (f a)) :
    Errs p (r >>= f) := by
  cases r with
  | ok a => exact hf a
  | error e => exact error (hr.holds e rfl)

theorem map {r : Except ε α} (hr : Errs p r) (f : α → β) : Errs p (r.map f) := by
  cases r with
  | ok a => exact ok (f a)
  | error e => exact error (hr.holds e rfl)

theorem mapError (r : Except δ α) {f : δ → ε} (hf : ∀ e, p (f e) = true) :
    Errs p (r.mapError f) := by
  cases r with
  | ok a => exact ok a
  | error e => exact error (hf e)

theorem value (r : Except ValueError α) : Tame (r.mapError Cause.value) := mapError r fun _ => rfl

theorem cause {r : Except Cause α} (hr : Tame r) : TameStop (r.mapError .cause) := by
  cases r with
  | ok a => exact ok a
  | error e => exact error (hr.holds e rfl)

end Errs

namespace Variable

theorem movedDays_tame (t : Instant) (days : Int) : TameStop (movedDays t days) := by
  unfold movedDays
  split
  · exact .ok _
  · exact .error rfl

theorem readingOf_tame (env : Environment) (c : Context) (r : Reading) :
    TameStop (readingOf env c r) := by
  cases r <;> first | exact .ok _ | exact movedDays_tame ..

theorem read_tame (env : Environment) (c : Context) (v : Variable) : TameStop (v.read env c) := by
  cases v with
  | backend => cases h : c.backend <;> simp only [read, h] <;> exact .ok _
  | reading r => exact (readingOf_tame env c r).map some
  | _ => exact .ok _

theorem assignMethod_tame (name : String) (old : Method) (op : AssignOp) (v : Value) :
    Tame (assignMethod name old op v) := by
  refine .bind (.value _) fun text => ?_
  split
  · exact .ok _
  · exact .error rfl

theorem assignUri_tame (name : String) (old : Uri) (op : AssignOp) (v : Value) :
    Tame (assignUri name old op v) :=
  .bind (.value _) fun _ => .mapError _ fun _ => rfl

theorem assignStatus_tame (name : String) (old : Status) (op : AssignOp) (v : Value) :
    Tame (assignStatus name old op v) := by
  refine .bind (.value _) fun slot => ?_
  dsimp only
  split
  · exact .error rfl
  split
  · exact .error rfl
  split
  · exact .ok _
  · exact .error rfl

theorem write_tame (c : Context) (name : String) (op : AssignOp) (v : Value) (x : Variable) :
    Tame (x.write c name op v) := by
  cases x with
  | «local» n =>
    cases h : c.locals.get? n <;> simp only [write, h]
    · exact .error rfl
    · exact .bind (.value _) fun _ => .ok _
  | method m => exact .bind (assignMethod_tame ..) fun _ => .ok _
  | url m => exact .bind (assignUri_tame ..) fun _ => .ok _
  | status m => exact .bind (assignStatus_tame ..) fun _ => .ok _
  | group _ => exact .error rfl
  | reading _ => exact .error rfl
  | _ => exact .bind (.value _) fun _ => .ok _

end Variable

namespace Context

variable (env : Environment) (c : Context) (name : String)

theorem getVariable_tame : TameStop (c.getVariable env name) := by
  unfold getVariable
  split
  · exact .error rfl
  · refine .bind (Variable.read_tame ..) fun found => ?_
    split
    · exact .ok _
    · exact .error rfl

theorem notWritable_isLocal : (c.notWritable env name).isLocal = true := by
  unfold notWritable
  split <;> rfl

theorem setVariable_tame (op : AssignOp) (v : Value) : TameStop (c.setVariable env name op v) := by
  unfold setVariable
  split
  · exact .error (notWritable_isLocal ..)
  · exact (Variable.write_tame ..).cause

theorem addVariable_tame (v : Value) : TameStop (c.addVariable env name v) := by
  unfold addVariable
  split
  · exact .mapError _ fun _ => rfl
  split
  · exact .error rfl
  · exact .error (notWritable_isLocal ..)

theorem unsetVariable_tame : TameStop (c.unsetVariable env name) := by
  unfold unsetVariable
  split
  · exact .mapError _ fun _ => rfl
  · split
    · exact .ok _
    · exact .error (notWritable_isLocal ..)
  · exact .error (notWritable_isLocal ..)

theorem resolve_tame : Tame (Builtin.resolve env c name) := by
  unfold Builtin.resolve
  split
  · exact .error rfl
  split
  · exact .error rfl
  split
  · exact .ok _
  · exact .error rfl

end Context

theorem Value.truth_tame (context : String) (v : Value) : Tame (v.truth context) := by
  unfold Value.truth
  split
  · exact .ok _
  · exact .error rfl

theorem Run.synthesized_tame (base64 : Bool) (text : String) :
    Tame (Run.synthesized base64 text) := by
  unfold Run.synthesized
  split
  · split
    · exact .ok _
    · exact .error rfl
  · exact .ok _

theorem Run.endingOf_tame (scope : Scope) (c : Context) (flow : Flow) :
    Tame (Run.endingOf scope c flow) := by
  unfold Run.endingOf
  split <;> first | exact .ok _ | exact .error rfl

end EdgeCache
