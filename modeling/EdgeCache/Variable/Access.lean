import EdgeCache.Text.Base64
import EdgeCache.Value.Assign
import EdgeCache.Variable.Basic

/-!
Reading and writing variables. A write that fails leaves the context as it was.
-/

namespace EdgeCache

def Headers.read (h : Headers) (name : String) : Value :=
  ((h.text? name).map Value.ofString).getD Value.unsetString

def cutAtLast? (sep : Char) (s : List Char) : Option (List Char × List Char) :=
  (Pieces.cutAt? sep s.reverse).map fun p => (p.2.reverse, p.1.reverse)

namespace Reading

def baseNameOf (path : List Char) : List Char := ((cutAtLast? '/' path).map (·.2)).getD path

def directoryOf (path : List Char) : List Char :=
  match cutAtLast? '/' path with
  | some (c :: dir, _) => c :: dir
  | _ => ['/']

def extensionOf (path : List Char) : List Char :=
  ((cutAtLast? '.' (baseNameOf path)).map (·.2)).getD []

end Reading

namespace Context

def uri (c : Context) : MessageName → Uri
  | .backendRequest => c.backendRequest.uri
  | _ => c.request.uri

def bodyOf (c : Context) : MessageName → String
  | .request => c.request.body
  | .backendRequest => c.backendRequest.body
  | .backendResponse => c.backendResponse.body
  | .object => c.object.body
  | .response => c.response.body

def methodOf (c : Context) : MessageName → Method
  | .backendRequest => c.backendRequest.method
  | _ => c.request.method

def statusOf (c : Context) : MessageName → Status
  | .backendResponse => c.backendResponse.status
  | _ => c.response.status

def contacted? (c : Context) : Option Backend :=
  match c.selected with
  | some b => some b
  | none => c.backend

def contactedAddress (c : Context) : Value :=
  .ofIp (((c.contacted?.bind fun b => b.property? "host").bind Address.read?).getD .loopback)

def contactedPort (c : Context) : Value :=
  let given :=
    (c.contacted?.bind fun b => b.property? "port").bind fun s => Integer.readInt64? s.toList
  let standard := if c.contacted?.any fun b => b.hasProperty "ssl" then 443 else 80
  .ofInteger (given.getD standard)

def headerSize (h : Headers) : Nat :=
  h.fields.foldl (fun n f => n + f.1.text.utf8ByteSize + f.2.bytes.length + 4) 0

def nameOf (b : Option Backend) : String := (b.map Backend.name).getD ""

end Context

namespace Variable

def textOf (cs : List Char) : Value := .ofChars cs

def ofIntText (n : Int) : Value := textOf (Decimal.ofInt n)

/-- An instant moved by days, which panics where it leaves the range of dates. -/
def movedDays (t : Instant) (days : Int) : Except (Stop Cause) Value :=
  match t.shift? (days * 86400000) with
  | some u => .ok (.ofTime u)
  | none => .error .panic

def readingOf (env : Environment) (c : Context) : Reading → Except (Stop Cause) Value
  | .constant v => .ok v
  | .clientAddress => .ok (.ofIp c.client)
  | .clientPort => .ok (.ofInt c.clientPort)
  | .isIpv6 => .ok (.ofBool (!c.client.isV4))
  | .target m => .ok (.ofString (c.uri m).resource)
  | .path m => .ok (.ofString (c.uri m).path)
  | .query m => .ok (.ofString ((c.uri m).query?.getD ""))
  | .baseName => .ok (textOf (Reading.baseNameOf c.request.uri.path.toList))
  | .directory => .ok (textOf (Reading.directoryOf c.request.uri.path.toList))
  | .fileExtension => .ok (textOf (Reading.extensionOf c.request.uri.path.toList))
  | .protocol m => .ok (.ofString (c.version m).shortText)
  | .body m => .ok (.ofString (c.bodyOf m))
  | .bodyBase64 => .ok (textOf (Base64.encode .standard true (Utf8.ofString c.request.body)))
  | .restarts => .ok (.ofInt c.restarts)
  | .requestId => .ok (.ofString c.requestId)
  | .backendName => .ok (.ofString (Context.nameOf c.backend))
  | .backendHealthy => .ok (.ofBool (c.backend.any fun b => env.health.isUp b.name))
  | .backendIsOrigin => .ok (.ofBool (c.backend.any fun b => b.director?.isNone))
  | .hostname => .ok (.ofString env.config.hostname)
  | .identity => .ok (.ofString env.config.identity)
  | .datacenter => .ok (.ofString env.config.datacenter)
  | .region => .ok (.ofString env.config.region)
  | .now | .start => .ok (.ofTime env.now)
  | .nowSeconds | .startSeconds => .ok (ofIntText env.now.seconds)
  | .startMillis => .ok (ofIntText (env.now.seconds * 1000 + env.now.nanos / 1000000))
  | .elapsed => .ok (.ofRTime .zero)
  | .elapsedMillis => .ok (ofIntText 0)
  | .state => .ok (.ofString c.state)
  | .selectedName => .ok (.ofString (Context.nameOf c.selected))
  | .selectedAddress => .ok c.contactedAddress
  | .selectedPort => .ok c.contactedPort
  | .locallyGenerated => .ok (.ofBool c.locallyGenerated)
  | .bodyBytes => .ok (.ofInt c.response.body.utf8ByteSize)
  | .headerBytes => .ok (.ofInt (Context.headerSize c.response.headers))
  | .allBytes => .ok (.ofInt (c.response.body.utf8ByteSize + Context.headerSize c.response.headers))
  | .notBefore => movedDays env.now (-1)
  | .notAfter => movedDays env.now 364

def read (env : Environment) (c : Context) : Variable → Except (Stop Cause) (Option Value)
  | .slot s => .ok (some (c.slot s))
  | .header m name => .ok (some ((c.headers m).read name))
  | .local name => .ok (c.locals.get? name)
  | .group index =>
    let found :=
      (c.captures.groups.zipIdx.find? fun g => Decimal.digits g.2 == index.toList).map (·.1)
    .ok (some ((found.map Value.ofString).getD Value.unsetString))
  | .clientIdentity => .ok (some (.ofString c.clientIdentity))
  | .method m => .ok (some (.ofString (c.methodOf m).text))
  | .url m => .ok (some (.ofString (c.uri m).resource))
  | .status m => .ok (some (.ofInt (c.statusOf m).code))
  | .backend =>
    match c.backend with
    | some b => .ok (some (.backend b))
    | none => .ok (some .null)
  | .reading r => (readingOf env c r).map some

def headerName (name : String) : Except ValueError HeaderName :=
  match HeaderName.ofText? name with
  | some n => .ok n
  | none => .error (.invalidHeader name)

def headerValue (name text : String) : Except ValueError HeaderValue :=
  match HeaderValue.ofText? text with
  | some v => .ok v
  | none => .error (.invalidHeader s!"{name}: {text}")

def assignHeader (h : Headers) (name : String) (op : AssignOp) (v : Value) :
    Except ValueError Headers := do
  let key ← headerName name
  match op with
  | .assign =>
    if v.isUnset then return h.remove key
    else return h.insert key (← headerValue name v.text)
  | .addition => return h.insert key (← headerValue name ((h.read name).text ++ v.text))
  | _ => .error (.unsupportedOperator op.sign .string)

/-- A local that has no value yet takes an address or a backend whole. -/
def assignLocal (old : Value) (op : AssignOp) (v : Value) : Except ValueError Value :=
  match old, op with
  | .null, .assign =>
    match v with
    | .ip .. | .backend _ => .ok v
    | _ => .error (.unsupportedOperator op.sign v.kind)
  | _, _ => old.assign op v

def assignText (old : String) (op : AssignOp) (v : Value) : Except ValueError String :=
  ((Value.ofString old).assign op v).map Value.text

def assignMethod (name : String) (old : Method) (op : AssignOp) (v : Value) :
    Except Cause Method := do
  let text ← (assignText old.text op v).mapError Cause.value
  match Method.ofText? text with
  | some m => return m
  | none => .error (.invalidValue name Method.invalid)

def assignUri (name : String) (old : Uri) (op : AssignOp) (v : Value) : Except Cause Uri := do
  let text ← (assignText old.resource op v).mapError Cause.value
  (Uri.ofText text).mapError fun e => .invalidValue name e.message

/-- The codes that fit into sixteen bits are told apart from those that do not. -/
def assignStatus (name : String) (old : Status) (op : AssignOp) (v : Value) :
    Except Cause Status := do
  let slot ← ((Value.ofInt old.code).assign op v).mapError Cause.value
  let n := ((slot.integer?).getD 0).toInt
  if n < 0 then .error (.invalidValue name Integer.Error.tooSmall.message)
  else if 65535 < n then .error (.invalidValue name Integer.Error.tooLarge.message)
  else
    match Status.ofCode? n with
    | some s => return s
    | none => .error (.invalidValue name "invalid status code")

def setMethod (c : Context) (method : Method) : MessageName → Context
  | .backendRequest => { c with backendRequest := { c.backendRequest with method := method } }
  | _ => { c with request := { c.request with method := method } }

def setUri (c : Context) (uri : Uri) : MessageName → Context
  | .backendRequest => { c with backendRequest := { c.backendRequest with uri := uri } }
  | _ => { c with request := { c.request with uri := uri } }

def setStatus (c : Context) (status : Status) : MessageName → Context
  | .backendResponse => { c with backendResponse := { c.backendResponse with status := status } }
  | _ => { c with response := { c.response with status := status } }

def write (c : Context) (name : String) (op : AssignOp) (v : Value) :
    Variable → Except Cause Context
  | .slot s => do return c.setSlot s (← ((c.slot s).assign op v).mapError Cause.value)
  | .header m field => do
    return c.setHeaders (← (assignHeader (c.headers m) field op v).mapError Cause.value) m
  | .local n =>
    match c.locals.get? n with
    | none => .error (.undefinedVariable name c.scope)
    | some old => do
      return { c with locals := c.locals.put n (← (assignLocal old op v).mapError Cause.value) }
  | .clientIdentity => do
    return { c with identity := some (← (assignText c.clientIdentity op v).mapError Cause.value) }
  | .method m => do return setMethod c (← assignMethod name (c.methodOf m) op v) m
  | .url m => do return setUri c (← assignUri name (c.uri m) op v) m
  | .status m => do return setStatus c (← assignStatus name (c.statusOf m) op v) m
  | .backend =>
    do return { c with backend := some (← (Value.assignBackend op v).mapError Cause.value) }
  | .group _ | .reading _ => .error (.readOnlyVariable name c.scope)

end Variable

namespace Context

def getVariable (env : Environment) (c : Context) (name : String) : Except (Stop Cause) Value := do
  match Variable.ofName? c.scope name with
  | none => .error (.cause (.undefinedVariable name c.scope))
  | some v =>
    match ← v.read env c with
    | some value => return value
    | none => .error (.cause (.undefinedVariable name c.scope))

/-- Why a variable is not written: it cannot be, or there is none. To tell, it is read. -/
def notWritable (env : Environment) (c : Context) (name : String) : Stop Cause :=
  match c.getVariable env name with
  | .ok _ => .cause (.readOnlyVariable name c.scope)
  | .error (.cause _) => .cause (.undefinedVariable name c.scope)
  | .error .panic => .panic

def writable? (c : Context) (name : String) : Option Variable :=
  (Variable.ofName? c.scope name).filter fun v => v.isWritable c.scope

def setVariable (env : Environment) (c : Context) (name : String) (op : AssignOp) (v : Value) :
    Except (Stop Cause) Context :=
  match c.writable? name with
  | none => .error (c.notWritable env name)
  | some x => (x.write c name op v).mapError .cause

def addVariable (env : Environment) (c : Context) (name : String) (v : Value) :
    Except (Stop Cause) Context :=
  match c.writable? name with
  | some (.header m field) => (do
      let key ← Variable.headerName field
      let value ← Variable.headerValue field v.text
      return c.setHeaders ((c.headers m).append key value) m : Except ValueError Context).mapError
        fun e => .cause (.value e)
  | _ =>
    match Variable.headerOf? name, c.getVariable env name with
    | none, .ok _ => .error (.cause (.notAddable name))
    | _, _ => .error (c.notWritable env name)

def unsetVariable (env : Environment) (c : Context) (name : String) : Except (Stop Cause) Context :=
  match c.writable? name with
  | some (.header m field) => (do
      let key ← Variable.headerName field
      return c.setHeaders ((c.headers m).remove key) m : Except ValueError Context).mapError
        fun e => .cause (.value e)
  | some (.local n) =>
    match c.locals.get? n with
    | some old => .ok { c with locals := c.locals.put n (Value.unset old.kind) }
    | none => .error (c.notWritable env name)
  | _ => .error (c.notWritable env name)

end Context

end EdgeCache
