import EdgeCache.Run.Subroutine

/-!
What the stages of a request do besides running their subroutines: the messages that they hand over,
and the choice of a backend.
-/

namespace EdgeCache

/-- Answers a request to a backend. The number counts the requests before. -/
abbrev Origin := Nat → Option Backend → Request → Except Cause Response

namespace Origin

def empty : Origin := fun _ _ _ => .ok .empty

def ofList (answers : List (Except Cause Response)) : Origin := fun i _ _ =>
  (answers[i]?.or answers.getLast?).getD (.ok .empty)

def after (count : Nat) (o : Origin) : Origin := fun i => o (count + i)

end Origin

namespace Lifecycle

def withState (state : String) (c : Context) : Context := { c with state := state }

/-- What a request is stored under unless the program says so: its target and its host. -/
def standardHash (r : Request) : String :=
  r.uri.pathAndQuery?.getD "/" ++ (((r.headers.text? "host").or r.uri.host?).getD "")

def fillHash (c : Context) : Context :=
  if (c.slot .hash).text.isEmpty then c.setSlot .hash (.ofString (standardHash c.request)) else c

def copyRequest (c : Context) : Context := { c with backendRequest := c.request }

def pickBackend (env : Environment) (c : Context) :
    Except DirectorError (Option Backend) × Context :=
  match c.backend with
  | none => (.ok none, c)
  | some b =>
    match b.director? with
    | none => (.ok (some b), c)
    | some d =>
      let (r, c) := Director.selectFor d env c
      (r.map some, c)

def noBackend (e : DirectorError) (c : Context) : Context :=
  ((c.setSlot .lastError (.ofString e.message)).setSlot .objectStatus (.ofInteger 503)).setSlot
    .objectReason (.ofString "Service Unavailable")

def receive (backend : Option Backend) (r : Response) (c : Context) : Context :=
  { c.setSlot .backendReason (.ofString (r.status.phrase?.getD "")) with
    backendResponse := r
    selected := backend }

def errorStatus (c : Context) : Status :=
  (((c.slot .objectStatus).integer?).bind fun n => Status.ofCode? n.toInt).getD .internalServerError

def respondWithObject (c : Context) : Context :=
  { c.setSlot .responseReason (c.slot .objectReason) with
    response := ⟨errorStatus c, .http11, c.object.headers, c.object.body⟩
    locallyGenerated := true }

def respondWithFetched (c : Context) : Context :=
  { c.setSlot .responseReason (c.slot .backendReason) with
    response := c.backendResponse
    locallyGenerated := false }

def originFailure : Cause → Cause
  | .origin text => .origin text
  | other => .origin other.message

def ask (origin : Origin) (backend : Option Backend) : Run Response := fun m =>
  let request := m.context.backendRequest
  let answer := origin m.fetchCount backend request
  let m := m.record (.fetch backend request m.context.restarts)
  match answer with
  | .ok r => (.done r, m)
  | .error e => (.failed (.of (originFailure e)), m)

end Lifecycle

end EdgeCache
