import EdgeCache.Run.Statement

/-!
Running a subroutine as that of a stage, and how it ended.
-/

namespace EdgeCache.Run

def defaultState (s : Scope) : ReturnState := s.defaultReturn?.getD .lookup

def raisedError (c : Context) : Ending :=
  .error (((c.slot .objectStatus).integer?).getD 0) (c.slot .objectReason).text

def endingOf (scope : Scope) (c : Context) : Flow → Except Cause Ending
  | .restart => .ok .restart
  | .error => .ok (raisedError c)
  | .returned (some s) => .ok (.returned s)
  | .goto l => .error (.undefinedGoto l)
  | .next | .leave | .returned none | .value _ => .ok (.returned (defaultState scope))

/-- The flow in which a subroutine ends. A stage whose subroutine is not declared does nothing. -/
def flowOf (env : Environment) (name : String) : Run Flow :=
  match env.declarations.subroutine? name with
  | some s => do
    modify fun m => { m.enter name with frames := ⟨name, none⟩ :: m.frames }
    fun m =>
      let (r, n) := pinned s.token (runBody env env.patience s.body) m
      (r, { n with frames := n.frames.tail })
  | none =>
    if (Scope.ofSubroutine? name).isSome then pure .next else raise (.undefinedSubroutine name)

def subroutine (env : Environment) (name : String) (scope : Scope) : Run Ending := do
  modifyContext fun c => { c.enter scope with locals := .empty }
  let flow ← flowOf env name
  let ending ← asking fun c => endingOf scope c flow
  modifyContext fun c => { c with ending := some ending }
  return ending

end EdgeCache.Run
