import EdgeCache.Context.Basic
import EdgeCache.Failure

/-!
Runs of a program: the machine that they change, how they end, and how one follows another. A run
gives the changed machine back also when it fails.
-/

namespace EdgeCache

inductive Flow where
  | next
  | leave
  | goto (label : String)
  | returned (state : Option ReturnState)
  | value (v : Value)
  | restart
  | error

structure Frame where
  name : String
  returns : Option Kind
  deriving DecidableEq

inductive Event where
  | stage (scope : Scope) (restarts : Nat)
  | fetch (backend : Option Backend) (request : Request) (restarts : Nat)

inductive Mark where
  | event (e : Event)
  | again
  | statement (s : Statement)
  /-- A statement that ends the stage takes effect, in the subroutines that run then. -/
  | transfer (ending : Ending) (frames : List Frame)
  /-- An operator reads a text as a pattern and searches another one for it. -/
  | search (pattern subject : String)

def Mark.event? : Mark → Option Event
  | .event e => some e
  | _ => none

structure Machine where
  context : Context
  frames : List Frame
  entered : List String
  logs : List String
  trace : List Mark

namespace Machine

def start (c : Context) : Machine := ⟨c, [], [], [], []⟩

def history (m : Machine) : List Mark := m.trace.reverse

def events (m : Machine) : List Event := m.history.filterMap Mark.event?

def note (m : Machine) (k : Mark) : Machine := { m with trace := k :: m.trace }

def record (m : Machine) (e : Event) : Machine := m.note (.event e)

def transfer (m : Machine) (ending : Ending) : Machine := m.note (.transfer ending m.frames)

def seek (m : Machine) : Option (String × String) → Machine
  | some (pattern, subject) => m.note (.search pattern subject)
  | none => m

def raise (m : Machine) (status : Int64) (text : String) : Machine :=
  let c := (m.context.setSlot .objectStatus (.ofInteger status)).setSlot .objectReason
    (.ofString text)
  Machine.transfer { m with context := c } (.error status text)

def fetchCount (m : Machine) : Nat :=
  m.trace.countP fun k => match k with
    | .event (.fetch ..) => true
    | _ => false

def log (m : Machine) (text : String) : Machine := { m with logs := m.logs ++ [text] }

def enter (m : Machine) (subroutine : String) : Machine :=
  { m with entered := m.entered ++ [subroutine] }

/-- Begins a subroutine without locals and groups. -/
def push (m : Machine) (frame : Frame) : Machine :=
  { m with
    context := { m.context with locals := .empty, captures := .none }
    frames := frame :: m.frames }

def pop (m : Machine) (locals : Register Value) : Machine :=
  { m with context := { m.context with locals := locals }, frames := m.frames.tail }

end Machine

/-- Why a run stops without a failure: it takes too many steps, or it panics. -/
inductive Halt where
  | exhausted
  | panicked
  deriving Repr, DecidableEq

def Halt.message : Halt → String
  | exhausted => "the run was given up"
  | panicked => "the run panicked"

inductive Outcome (α : Type) where
  | done (a : α)
  | failed (f : Failure)
  | halted (h : Halt)

abbrev Run (α : Type) := Machine → Outcome α × Machine

namespace Run

variable {α β : Type}

@[inline] def pure (a : α) : Run α := fun m => (.done a, m)

@[inline] def bind (x : Run α) (f : α → Run β) : Run β := fun m =>
  match x m with
  | (.done a, m) => f a m
  | (.failed e, m) => (.failed e, m)
  | (.halted h, m) => (.halted h, m)

instance : Monad Run where
  pure := pure
  bind := bind

def fail (f : Failure) : Run α := fun m => (.failed f, m)

def raise (c : Cause) : Run α := fail (.of c)

def exhausted : Run α := fun m => (.halted .exhausted, m)

def stopped : Stop Cause → Outcome α
  | .cause c => .failed (.of c)
  | .panic => .halted .panicked

def ofExcept (r : Except Cause α) : Run α :=
  match r with
  | .ok a => pure a
  | .error c => raise c

def asking (f : Context → Except Cause α) : Run α := fun m => ofExcept (f m.context) m

def reading (f : Context → Except (Stop Cause) α) : Run α := fun m =>
  match f m.context with
  | .ok a => (.done a, m)
  | .error s => (stopped s, m)

def updating (f : Context → Except (Stop Cause) Context) : Run Unit := fun m =>
  match f m.context with
  | .ok c => (.done (), { m with context := c })
  | .error s => (stopped s, m)

/-- Changes the context itself, also where it stops. -/
def editing (x : EStateM (Stop Cause) Context Unit) : Run Unit := fun m =>
  match x m.context with
  | .ok _ c => (.done (), { m with context := c })
  | .error s c => (stopped s, { m with context := c })

def modify (f : Machine → Machine) : Run Unit := fun m => (.done (), f m)

def modifyContext (f : Context → Context) : Run Unit :=
  modify fun m => { m with context := f m.context }

def pinned (t : Token) (x : Run α) : Run α := fun m =>
  match x m with
  | (.failed f, m) => (.failed (f.pin t), m)
  | r => r

def require (allowed : Scope → Bool) (statement : String) : Run Unit := fun m =>
  if allowed m.context.scope then (.done (), m)
  else (.failed (.of (.statementNotAllowed statement m.context.scope)), m)

def inFrame (frame : Frame) (x : Run α) : Run α := fun m =>
  let (r, n) := x (m.push frame)
  (r, n.pop m.context.locals)

end Run

end EdgeCache
