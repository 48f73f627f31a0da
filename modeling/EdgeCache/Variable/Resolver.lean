import EdgeCache.Variable.Access

/-!
Writing in place. The resolvers for the variables of a stage, of every stage and of the firewall are
asked in turn whether they write a name. The first one that does works on the context itself: what
it has changed stays changed when it fails after that.
-/

namespace EdgeCache

variable {σ τ ε α : Type}

/-- Works on a part of the state, which is put back however the work ends. -/
def onPart (part : σ → τ) (put : σ → τ → σ) (x : EStateM ε τ α) : EStateM ε σ α := fun s =>
  match x (part s) with
  | .ok a t => .ok a (put s t)
  | .error e t => .error e (put s t)

namespace Value

def fill (content : Marks → Value) (m : Marks) (notSet : Bool) : EStateM ValueError Value Unit := do
  set (content m)
  set (content { m with notSet := notSet })

def assignInPlace (op : AssignOp) (right : Value) : EStateM ValueError Value Unit := do
  let slot ← get
  match slot with
  | integer a m =>
    let b ← ofExcept (convert op .integer right toInteger?)
    let n ← ofExcept (assignInteger op a b)
    fill (integer n) m false
  | float x m =>
    let y ← ofExcept (convert op .float right toFloat?)
    let z ← ofExcept (assignFloat op x y)
    fill (float z) m false
  | string s m =>
    let (text, notSet) ← ofExcept (assignString op s right)
    fill (string text) m notSet
  | bool a m =>
    let b ← ofExcept (convert op .bool right bool?)
    let c ← ofExcept (assignBool op a b)
    fill (bool c) m false
  | rtime d m =>
    let e ← ofExcept (assignDuration op d right)
    fill (rtime e) m false
  | time t unset =>
    let u ← ofExcept (assignInstant op t right)
    set (time u unset)
    set (time u false)
  | ip _ literal =>
    let a ← ofExcept (assignAddress op right)
    set (ip a literal)
  | backend _ =>
    let b ← ofExcept (assignBackend op right)
    set (backend b)
  | acl _ | table _ | ident _ | null => throw (.unsupportedOperator op.sign slot.kind)

def assignLocalInPlace (op : AssignOp) (right : Value) : EStateM ValueError Value Unit := do
  match ← get, op with
  | .null, .assign =>
    match right with
    | .ip .. | .backend _ => set right
    | _ => throw (.unsupportedOperator op.sign right.kind)
  | _, _ => assignInPlace op right

end Value

namespace Headers

def insertText (key : HeaderName) (name text : String) : EStateM ValueError Headers Unit := do
  let value ← ofExcept (Variable.headerValue name text)
  modify (·.insert key value)

def assignInPlace (name : String) (op : AssignOp) (v : Value) :
    EStateM ValueError Headers Unit := do
  let key ← ofExcept (Variable.headerName name)
  match op with
  | .assign => if v.isUnset then modify (·.remove key) else insertText key name v.text
  | .addition =>
    let old := (← get).read name
    insertText key name (old.text ++ v.text)
  | _ => throw (.unsupportedOperator op.sign .string)

def appendInPlace (name : String) (v : Value) : EStateM ValueError Headers Unit := do
  let key ← ofExcept (Variable.headerName name)
  let value ← ofExcept (Variable.headerValue name v.text)
  modify (·.append key value)

def removeInPlace (name : String) : EStateM ValueError Headers Unit := do
  let key ← ofExcept (Variable.headerName name)
  modify (·.remove key)

end Headers

inductive Place where
  | slot (s : Slot)
  | header (m : MessageName) (field : String)
  | local (name : String)
  | clientIdentity
  | method (m : MessageName)
  | url (m : MessageName)
  | status (m : MessageName)
  | backend
  deriving DecidableEq

namespace Place

open Variable (assignText assignMethod assignUri assignStatus setMethod setUri setStatus)

def onLocal (n : String) (x : Value → EStateM ValueError Value Unit) : EStateM Cause Context Bool :=
  fun c =>
  match c.locals.get? n with
  | none => .ok false c
  | some old =>
    let write : EStateM Cause Context Bool := do
      onPart (fun c => (c.locals.get? n).getD old)
        (fun c v => { c with locals := c.locals.put n v })
        ((x old).adaptExcept Cause.value)
      return true
    write c

def onHeaders (m : MessageName) (x : EStateM ValueError Headers Unit) :
    EStateM Cause Context Bool := do
  onPart (·.headers m) (fun c h => c.setHeaders h m) (x.adaptExcept Cause.value)
  return true

def replace {β : Type} (made : Context → Except Cause β) (put : Context → β → Context) :
    EStateM Cause Context Bool := do
  let b ← ofExcept (made (← get))
  modify (put · b)
  return true

def assign (name : String) (op : AssignOp) (v : Value) : Place → EStateM Cause Context Bool
  | slot s => do
    onPart (·.slot s) (·.setSlot s) ((Value.assignInPlace op v).adaptExcept Cause.value)
    return true
  | header m field => onHeaders m (Headers.assignInPlace field op v)
  | «local» n => onLocal n fun _ => Value.assignLocalInPlace op v
  | clientIdentity =>
    replace (fun c => (assignText c.clientIdentity op v).mapError Cause.value) fun c text =>
      { c with identity := some text }
  | method m =>
    replace (fun c => assignMethod name (c.methodOf m) op v) fun c new => setMethod c new m
  | url m => replace (fun c => assignUri name (c.uri m) op v) fun c new => setUri c new m
  | status m =>
    replace (fun c => assignStatus name (c.statusOf m) op v) fun c new => setStatus c new m
  | backend =>
    replace (fun _ => (Value.assignBackend op v).mapError Cause.value) fun c b =>
      { c with backend := some b }

def append (v : Value) : Place → EStateM Cause Context Bool
  | header m field => onHeaders m (Headers.appendInPlace field v)
  | _ => return false

def remove : Place → EStateM Cause Context Bool
  | header m field => onHeaders m (Headers.removeInPlace field)
  | «local» n => onLocal n fun old => set (Value.unset old.kind)
  | _ => return false

end Place

/-- The places that some variables stand for: those that have a name of their own, the headers of
some messages, and perhaps the locals. -/
structure Resolver where
  places : Scope → List (String × Place)
  messages : Scope → List MessageName
  locals : Bool

namespace Resolver

def backendRequestPlaces : List (String × Place) :=
  [("bereq.method", .method .backendRequest),
    ("bereq.request", .method .backendRequest),
    ("bereq.url", .url .backendRequest),
    ("bereq.connect_timeout", .slot .connectTimeout),
    ("bereq.first_byte_timeout", .slot .firstByteTimeout),
    ("bereq.between_bytes_timeout", .slot .betweenBytesTimeout)]

def stage : Resolver where
  places
    | .unknown | .log => []
    | .recv =>
      [("req.esi", .slot .esi),
        ("req.hash_always_miss", .slot .alwaysMiss),
        ("req.hash_ignore_busy", .slot .ignoreBusy),
        ("req.max_stale_if_error", .slot .maxStaleIfError),
        ("req.max_stale_while_revalidate", .slot .maxStaleWhileRevalidate),
        ("req.enable_range_on_pass", .slot .rangeOnPass),
        ("req.enable_segmented_caching", .slot .segmentedCaching)]
    | .hash => [("req.hash", .slot .hash)]
    | .hit => [("obj.ttl", .slot .objectTtl), ("obj.grace", .slot .objectGrace)]
    | .miss | .pass => backendRequestPlaces
    | .fetch =>
      [("beresp.status", .status .backendResponse),
        ("beresp.response", .slot .backendReason),
        ("beresp.ttl", .slot .backendTtl),
        ("beresp.grace", .slot .backendGrace),
        ("beresp.stale_if_error", .slot .backendStaleIfError),
        ("beresp.stale_while_revalidate", .slot .backendStaleWhileRevalidate),
        ("beresp.cacheable", .slot .backendCacheable),
        ("beresp.do_esi", .slot .backendDoEsi),
        ("beresp.do_stream", .slot .backendDoStream),
        ("beresp.gzip", .slot .backendGzip),
        ("beresp.brotli", .slot .backendBrotli),
        ("beresp.saintmode", .slot .backendSaintmode)]
    | .error =>
      [("obj.status", .slot .objectStatus),
        ("obj.response", .slot .objectReason),
        ("obj.ttl", .slot .objectTtl),
        ("obj.grace", .slot .objectGrace),
        ("req.hash", .slot .hash)]
    | .deliver => [("resp.status", .status .response), ("resp.response", .slot .responseReason)]
  messages
    | .miss | .pass => [.backendRequest]
    | .fetch => [.backendResponse]
    | .error => [.object]
    | .deliver => [.response]
    | .unknown | .recv | .hash | .hit | .log => []
  locals := false

def shared : Resolver where
  places _ :=
    [("client.identity", .clientIdentity),
      ("client.socket.congestion_algorithm", .slot .socketAlgorithm),
      ("client.socket.cwnd", .slot .socketWindow),
      ("client.socket.pace", .slot .socketPace),
      ("req.method", .method .request),
      ("req.request", .method .request),
      ("req.url", .url .request),
      ("req.backend", .backend)]
  messages _ := [.request]
  locals := true

def firewall : Resolver where
  places _ :=
    [("waf.anomaly_score", .slot (.waf .anomalyScore)),
      ("waf.blocked", .slot (.waf .blocked)),
      ("waf.counter", .slot (.waf .counter)),
      ("waf.executed", .slot (.waf .executed)),
      ("waf.http_violation_score", .slot (.waf .httpViolationScore)),
      ("waf.inbound_anomaly_score", .slot (.waf .inboundAnomalyScore)),
      ("waf.lfi_score", .slot (.waf .lfiScore)),
      ("waf.logdata", .slot (.waf .logdata)),
      ("waf.logged", .slot (.waf .logged)),
      ("waf.message", .slot (.waf .message)),
      ("waf.passed", .slot (.waf .passed)),
      ("waf.php_injection_score", .slot (.waf .phpInjectionScore)),
      ("waf.rce_score", .slot (.waf .rceScore)),
      ("waf.rfi_score", .slot (.waf .rfiScore)),
      ("waf.rule_id", .slot (.waf .ruleId)),
      ("waf.session_fixation_score", .slot (.waf .sessionFixationScore)),
      ("waf.severity", .slot (.waf .severity)),
      ("waf.sql_injection_score", .slot (.waf .sqlInjectionScore)),
      ("waf.xss_score", .slot (.waf .xssScore))]
  messages _ := []
  locals := false

def connection : Resolver where
  places _ := []
  messages _ := []
  locals := false

def all : List Resolver := [stage, shared, firewall, connection]

def place? (r : Resolver) (s : Scope) (name : String) : Option Place :=
  match (r.places s).lookup name with
  | some p => some p
  | none =>
    if r.locals && (Variable.after? "var." name).isSome then some (.local name)
    else
      match Variable.headerOf? name with
      | some (m, field) => if (r.messages s).contains m then some (.header m field) else none
      | none => none

def ask (act : Place → EStateM Cause Context Bool) (name : String) (r : Resolver) :
    EStateM Cause Context Bool :=
  fun c =>
    match r.place? c.scope name with
    | some p => act p c
    | none => .ok false c

def firstOf (act : Place → EStateM Cause Context Bool) (name : String) :
    List Resolver → EStateM Cause Context Bool
  | [] => return false
  | r :: rs => do
    let taken ← ask act name r
    if taken then return true else firstOf act name rs

def write (act : Place → EStateM Cause Context Bool) (refusal : Context → Stop Cause)
    (name : String) :
    EStateM (Stop Cause) Context Unit := do
  let taken ← (firstOf act name all).adaptExcept Stop.cause
  if taken then return () else throw (refusal (← get))

end Resolver

namespace Context

def assignVariable (env : Environment) (name : String) (op : AssignOp) (v : Value) :
    EStateM (Stop Cause) Context Unit :=
  Resolver.write (Place.assign name op v) (·.notWritable env name) name

/-- Why no value is added: the variable can be read and is no header, or it cannot be written at
all. -/
def notAddable (env : Environment) (name : String) (c : Context) : Stop Cause :=
  match Variable.headerOf? name, c.getVariable env name with
  | none, .ok _ => .cause (.notAddable name)
  | _, _ => c.notWritable env name

def appendVariable (env : Environment) (name : String) (v : Value) :
    EStateM (Stop Cause) Context Unit :=
  Resolver.write (Place.append v) (notAddable env name) name

def removeVariable (env : Environment) (name : String) : EStateM (Stop Cause) Context Unit :=
  Resolver.write Place.remove (·.notWritable env name) name

end Context

end EdgeCache
