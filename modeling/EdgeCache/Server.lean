import EdgeCache.Lifecycle.Stages

/-!
A server with a loaded program: it makes contexts for requests, runs subroutines in them, and serves
requests one after the other.
-/

namespace EdgeCache

structure Server where
  environment : Environment
  generator : Generator
  origin : Origin
  asked : Nat

structure Reply where
  response : Response
  failure : Option Failure
  restarts : Nat
  backend : Option Backend
  entered : List String
  logs : List String
  events : List Event

namespace Server

def start (p : Program) (config : Config) (origin : Origin) : Except Failure Server := do
  let d ← Declarations.load p
  for b in d.backends do
    if let some decl := b.director? then
      discard ((Director.ofDeclaration decl d).mapError fun e => Failure.of (.director e))
  return { environment := .of d config
           generator := .ofSeed (config.seed.getD 0)
           origin := origin
           asked := 0 }

def context (s : Server) (r : Request) (client : Address) (port : Nat) : Context × Server :=
  let (g, rest) := s.generator.fork
  (.start s.environment r client port g, { s with generator := rest })

def isUp? (s : Server) (backend : String) : Option Bool :=
  (s.environment.declarations.backend? backend).map fun b => s.environment.health.isUp b.name

def setHealth (s : Server) (backend : String) (up : Bool) : Server :=
  { s with environment := { s.environment with health := s.environment.health.set backend up } }

/-- The stage that a subroutine runs in: its own, or else that of the context, or the first one. -/
def scopeOf (name : String) (c : Context) : Scope :=
  match Scope.ofSubroutine? name, c.scope with
  | some s, _ => s
  | none, .unknown => .recv
  | none, s => s

def run (s : Server) (c : Context) (name : String) : Outcome Ending × Context :=
  let (r, m) := Run.subroutine s.environment name (scopeOf name c) (.start c)
  (r, m.context)

def forwardedBy : String := "fastly-ff"

def isLoop (config : Config) (r : Request) : Bool :=
  (r.headers.texts forwardedBy).any fun t => Pieces.containsPart config.hostname.toList t.toList

def plain (status : Status) (body : String) : Response :=
  { Response.empty with status := status, body := body }

def loopReply : Reply :=
  ⟨plain .serviceUnavailable "loop detected", none, 0, none, [], [], []⟩

def responseOf (m : Machine) : Option Failure → Response
  | none => m.context.response
  | some f => plain .internalServerError f.message

def replyOf (failure : Option Failure) (m : Machine) : Reply :=
  ⟨responseOf m failure, failure, m.context.restarts, m.context.contacted?, m.entered, m.logs,
    m.events⟩

/-- Serves a request. A loop is answered at once and leaves the generator alone. A run that is
halted leaves nothing to answer with. -/
def serve (s : Server) (r : Request) (client : Address) (port : Nat) :
    Except Halt (Reply × Server) :=
  if isLoop s.environment.config r then .ok (loopReply, s)
  else
    let (c, s) := s.context r client port
    match Lifecycle.process s.environment (s.origin.after s.asked) (.start c) with
    | (.done (), m) => .ok (replyOf none m, { s with asked := s.asked + m.fetchCount })
    | (.failed f, m) => .ok (replyOf (some f) m, { s with asked := s.asked + m.fetchCount })
    | (.halted h, _) => .error h

end Server

end EdgeCache
