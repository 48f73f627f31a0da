import EdgeCache.Config
import EdgeCache.Context.Slot
import EdgeCache.Director.Select
import EdgeCache.Message.Basic
import EdgeCache.Register
import EdgeCache.Uuid
import EdgeCache.Value.Operate

/-!
The state of one request while a program handles it, and what surrounds it without change.
-/

namespace EdgeCache

structure Environment where
  declarations : Declarations
  config : Config
  now : Instant
  health : Health
  /-- How many steps deep a run may go before it is given up. -/
  patience : Nat

def Environment.standardPatience : Nat := tenTo 15

def Environment.of (d : Declarations) (config : Config) : Environment :=
  ⟨d, config, config.time, .allUp, standardPatience⟩

inductive MessageName where
  | request
  | backendRequest
  | backendResponse
  | object
  | response
  deriving Repr, DecidableEq

namespace MessageName

def all : List MessageName := [request, backendRequest, backendResponse, object, response]

def text : MessageName → String
  | request => "req"
  | backendRequest => "bereq"
  | backendResponse => "beresp"
  | object => "obj"
  | response => "resp"

def ofText? (s : String) : Option MessageName := all.find? fun m => m.text == s

end MessageName

inductive Ending where
  | returned (state : ReturnState)
  | restart
  | error (status : Int64) (response : String)
  deriving DecidableEq

structure Context where
  scope : Scope
  generator : Generator
  client : Address
  clientPort : Nat
  identity : Option String
  request : Request
  backendRequest : Request
  backendResponse : Response
  object : Response
  response : Response
  backend : Option Backend
  selected : Option Backend
  restarts : Nat
  state : String
  returnState : Option ReturnState
  ending : Option Ending
  captures : Captures
  locals : Register Value
  slots : Slots
  locallyGenerated : Bool
  triggerEsi : Bool
  uncompressed : List String
  pushed : List String
  altSvc : Bool
  penalties : Register (Register Instant)
  counts : Register (Register Int64)
  requestId : String

namespace Context

def start (env : Environment) (request : Request) (client : Address) (port : Nat) (g : Generator) :
    Context :=
  let (id, g) := Uuid.draw g
  { scope := .unknown
    generator := g
    client := client
    clientPort := port
    identity := none
    request := request
    backendRequest := .empty
    backendResponse := .empty
    object := .empty
    response := .empty
    backend := env.declarations.defaultBackend?
    selected := none
    restarts := 0
    state := "NONE"
    returnState := none
    ending := none
    captures := .none
    locals := .empty
    slots := .initial
    locallyGenerated := false
    triggerEsi := false
    uncompressed := []
    pushed := []
    altSvc := false
    penalties := .empty
    counts := .empty
    requestId := String.ofList id.simple }

def slot (c : Context) (s : Slot) : Value := c.slots.get s

def setSlot (c : Context) (s : Slot) (v : Value) : Context := { c with slots := c.slots.put s v }

def clientIdentity (c : Context) : String := c.identity.getD c.client.text

def enter (c : Context) (s : Scope) : Context := { c with scope := s, captures := .none }

def prepareRestart (c : Context) : Context :=
  { c with
    restarts := c.restarts + 1
    returnState := none
    selected := none
    backendRequest := .empty
    backendResponse := .empty
    object := .empty
    response := .empty
    slots := ((c.slots.put .objectStatus (Slot.initial .objectStatus)).put .objectReason
      (Slot.initial .objectReason)).put .hash (Slot.initial .hash) }

def headers (c : Context) : MessageName → Headers
  | .request => c.request.headers
  | .backendRequest => c.backendRequest.headers
  | .backendResponse => c.backendResponse.headers
  | .object => c.object.headers
  | .response => c.response.headers

def setHeaders (c : Context) (h : Headers) : MessageName → Context
  | .request => { c with request := { c.request with headers := h } }
  | .backendRequest => { c with backendRequest := { c.backendRequest with headers := h } }
  | .backendResponse => { c with backendResponse := { c.backendResponse with headers := h } }
  | .object => { c with object := { c.object with headers := h } }
  | .response => { c with response := { c.response with headers := h } }

def version (c : Context) : MessageName → Version
  | .request => c.request.version
  | .backendRequest => c.backendRequest.version
  | .backendResponse => c.backendResponse.version
  | .object => c.object.version
  | .response => c.response.version

theorem headers_setHeaders (c : Context) (h : Headers) (m n : MessageName) :
    (c.setHeaders h m).headers n = if n = m then h else c.headers n := by
  cases m <;> cases n <;> rfl

theorem slot_setSlot (c : Context) (s t : Slot) (v : Value) :
    (c.setSlot s v).slot t = if t = s then v else c.slot t := Slots.get_put c.slots s t v

end Context

def Director.selectFor (decl : DirectorDeclaration) (env : Environment) (c : Context) :
    Except DirectorError Backend × Context :=
  match Director.ofDeclaration decl env.declarations with
  | .error e => (.error e, c)
  | .ok d =>
    let (picked, g) := d.select env.health ⟨(c.slot .hash).text, c.clientIdentity⟩ c.generator
    (picked, { c with generator := g })

end EdgeCache
