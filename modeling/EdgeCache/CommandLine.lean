import EdgeCache.Program.Decode
import EdgeCache.Server

/-!
The command line: what its arguments ask for, and the texts that answer it.
-/

namespace EdgeCache.CommandLine

structure Call where
  method : String
  url : String
  headers : List String
  client : String

inductive Command where
  | serve (program : String) (call : Call)
  | run (program subroutine : String) (testing : Bool)
  | config

structure Invocation where
  config : Option String
  command : Command

def standardCall : Call := ⟨"GET", "http://localhost/", [], "127.0.0.1:50000"⟩

def readCall (call : Call) : List String → Except String Call
  | [] => .ok call
  | "-X" :: m :: rest | "--method" :: m :: rest => readCall { call with method := m } rest
  | "--url" :: u :: rest => readCall { call with url := u } rest
  | "-H" :: h :: rest | "--header" :: h :: rest =>
    readCall { call with headers := call.headers ++ [h] } rest
  | "--client" :: a :: rest => readCall { call with client := a } rest
  | other :: _ => .error s!"unexpected argument {Quoted.quote other}"

def readCommand : List String → Except String Command
  | "serve" :: program :: rest => (readCall standardCall rest).map (.serve program)
  | ["run", program, subroutine] => .ok (.run program subroutine false)
  | ["run", program, subroutine, "--testing"] => .ok (.run program subroutine true)
  | ["config"] => .ok .config
  | _ => .error "expected serve PROGRAM, run PROGRAM SUBROUTINE or config"

def readArguments : List String → Except String Invocation
  | "-c" :: file :: rest | "--config" :: file :: rest => (readCommand rest).map (⟨some file, ·⟩)
  | args => (readCommand args).map (⟨none, ·⟩)

def readHeader (text : String) : Except String (HeaderName × HeaderValue) :=
  match Pieces.cutAt? ':' text.toList with
  | none => .error s!"header {Quoted.quote text} has no colon"
  | some (name, value) =>
    match HeaderName.ofText? (String.ofList (Blank.trim name)),
      HeaderValue.ofText? (String.ofList (Blank.trim value)) with
    | some n, some v => .ok (n, v)
    | _, _ => .error "the request is not valid"

def requestOf (call : Call) : Except String Request := do
  let fields ← call.headers.mapM readHeader
  match Method.ofText? call.method, Uri.ofText call.url with
  | some m, .ok u => return ⟨m, u, .http11, ⟨fields⟩, ""⟩
  | _, _ => throw "the request is not valid"

def recordOf (r : Reply) : Json :=
  .object [("restarts", .int r.restarts),
    ("backend", Json.ofOption (fun b => .string (Backend.name b)) r.backend),
    ("error", Json.ofOption (fun f => .string (Failure.message f)) r.failure),
    ("subroutines", .array (r.entered.map .string)),
    ("logs", .array (r.logs.map .string))]

def headerLine (n : HeaderName) (v : HeaderValue) : String :=
  n.text ++ ": " ++ v.text?.getD "<binary>"

def replyText (r : Reply) : String :=
  let status := s!"{r.response.version.text} {r.response.status.code} " ++
    r.response.status.phrase?.getD "<unknown status code>"
  let lines := r.response.headers.fields.map fun f => headerLine f.1 f.2
  String.intercalate "\n"
    ((status :: lines) ++ ["", r.response.body, "", (recordOf r).toIndentedText])

def endingText : Ending → String
  | .returned s =>
    (Json.object [("type", .string "returned"), ("state", .string s.text)]).toIndentedText
  | .restart => (Json.object [("type", .string "restart")]).toIndentedText
  | .error n t =>
    (Json.object [("type", .string "error"), ("status", .int n.toInt),
      ("response", .string t)]).toIndentedText

def readProgram (text : String) : Except String Program :=
  match (Json.ofText? text).bind Program.ofJson? with
  | some p => .ok p
  | none => .error "Failed to deserialize program"

def readConfig (text : String) : Except String Config :=
  match Config.ofText? text with
  | some c => .ok c
  | none => .error "Failed to deserialize config"

def load (program : String) (config : Config) : Except String Server := do
  (Server.start (← readProgram program) config .empty).mapError Failure.message

def serve (program : String) (config : Config) (call : Call) : Except String String := do
  let s ← load program config
  let r ← requestOf call
  match Address.ofSocket? call.client with
  | none => throw "the address of the client is not valid"
  | some (client, port) => return replyText (← (s.serve r client port).mapError Halt.message).1

def run (program : String) (config : Config) (subroutine : String) : Except String String := do
  let s ← load program config
  let r ← requestOf standardCall
  let (c, s) := s.context r .loopback 50000
  match (s.run c subroutine).1 with
  | .done e => return endingText e
  | .failed f => throw f.message
  | .halted h => throw h.message

end EdgeCache.CommandLine
