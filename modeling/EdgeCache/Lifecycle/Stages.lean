import EdgeCache.Lifecycle.Basic

/-!
The way of a request through its stages. Nothing is stored, so every look-up misses. A round ends
with the last stage or with the wish to restart; a restart begins another round, up to the limit.
-/

namespace EdgeCache.Lifecycle

inductive Turn where
  | completed
  | restart
  deriving Repr, DecidableEq

def noteState (ending : Ending) (c : Context) : Context :=
  match ending with
  | .returned state => { c with returnState := some state }
  | _ => c

def visit (env : Environment) (s : Scope) : Run Ending := do
  Run.modify fun m => m.record (.stage s m.context.restarts)
  let ending ← Run.subroutine env s.subroutine s
  Run.modifyContext (noteState ending)
  return ending

def finish (env : Environment) : Run Turn := do
  discard (visit env .log)
  return .completed

def deliver (env : Environment) (respond : Context → Context) : Run Turn := do
  Run.modifyContext fun c => respond (withState "DELIVER" c)
  let ending ← visit env .deliver
  match ending with
  | .restart => return .restart
  | _ => finish env

def handleError (env : Environment) : Run Turn := do
  Run.modifyContext (withState "ERROR")
  let ending ← visit env .error
  match ending with
  | .restart => return .restart
  | _ => deliver env respondWithObject

def fetched (env : Environment) : Run Turn := do
  let ending ← visit env .fetch
  match ending with
  | .returned .error | .error .. => handleError env
  | .restart => return .restart
  | .returned _ => deliver env respondWithFetched

def fetch (env : Environment) (origin : Origin) : Run Turn := do
  Run.modifyContext (withState "FETCH")
  let picked ← fun m =>
    let (r, c) := pickBackend env m.context
    (.done r, { m with context := c })
  match picked with
  | .error (.config t text) => Run.raise (.director (.config t text))
  | .error e => do
    Run.modifyContext (noBackend e)
    handleError env
  | .ok backend => do
    let response ← ask origin backend
    Run.modifyContext (receive backend response)
    fetched env

def pass (env : Environment) (origin : Origin) : Run Turn := do
  Run.modifyContext (withState "PASS")
  let ending ← visit env .pass
  match ending with
  | .returned .error | .error .. => handleError env
  | .restart => return .restart
  | .returned _ => fetch env origin

/-- The request to the backend is made once in a round, here or before the stage of passing. -/
def miss (env : Environment) (origin : Origin) : Run Turn := do
  Run.modifyContext fun c => withState "MISS" (copyRequest c)
  let ending ← visit env .miss
  match ending with
  | .returned .pass => pass env origin
  | .returned .error | .error .. => handleError env
  | .returned .deliverStale => deliver env respondWithFetched
  | .restart => return .restart
  | .returned _ => fetch env origin

def lookUp (env : Environment) (origin : Origin) : Run Turn := do
  Run.modifyContext (withState "HASH")
  discard (visit env .hash)
  Run.modifyContext fillHash
  miss env origin

def round (env : Environment) (origin : Origin) : Run Turn := do
  Run.modifyContext (withState "RECV")
  let ending ← visit env .recv
  match ending with
  | .returned .pass => do
    Run.modifyContext copyRequest
    pass env origin
  | .returned .error | .error .. => handleError env
  | .restart => return .restart
  | .returned _ => lookUp env origin

def rounds (env : Environment) (origin : Origin) : Nat → Run Unit
  | 0 => do
    let turn ← round env origin
    match turn with
    | .completed => return ()
    | .restart => Run.raise (.tooManyRestarts env.config.maxRestarts)
  | left + 1 => do
    let turn ← round env origin
    match turn with
    | .completed => return ()
    | .restart => do
      Run.modify fun m => m.note .again
      Run.modifyContext Context.prepareRestart
      rounds env origin left

def process (env : Environment) (origin : Origin) : Run Unit := fun m =>
  rounds env origin (env.config.maxRestarts - m.context.restarts) m

end EdgeCache.Lifecycle
