import EdgeCache.Message.Header
import EdgeCache.Message.Uri

/-!
Requests and responses.
-/

namespace EdgeCache

inductive Version where
  | http09
  | http10
  | http11
  | http2
  | http3
  deriving Repr, DecidableEq, Inhabited

def Version.text : Version → String
  | .http09 => "HTTP/0.9"
  | .http10 => "HTTP/1.0"
  | .http11 => "HTTP/1.1"
  | .http2 => "HTTP/2.0"
  | .http3 => "HTTP/3.0"

def Version.shortText : Version → String
  | .http2 => "HTTP/2"
  | .http3 => "HTTP/3"
  | v => v.text

structure Method where
  text : String
  deriving Repr, DecidableEq

def Method.get : Method := ⟨"GET"⟩

def Method.ofText? (s : String) : Option Method :=
  if s.isEmpty then none
  else if s.toList.all isTokenChar then some ⟨s⟩
  else none

def Method.invalid : String := "invalid HTTP method"

structure Status where
  code : Nat
  inRange : 100 ≤ code ∧ code ≤ 999
  deriving DecidableEq

namespace Status

def ofCode? (n : Int) : Option Status :=
  if h : 100 ≤ n.toNat ∧ n.toNat ≤ 999 then some ⟨n.toNat, h⟩ else none

def ok : Status := ⟨200, by decide⟩
def internalServerError : Status := ⟨500, by decide⟩
def serviceUnavailable : Status := ⟨503, by decide⟩

def phrases : List (Nat × String) :=
  [(100, "Continue"), (101, "Switching Protocols"), (102, "Processing"), (103, "Early Hints"),
    (200, "OK"), (201, "Created"), (202, "Accepted"), (203, "Non Authoritative Information"),
    (204, "No Content"), (205, "Reset Content"), (206, "Partial Content"), (207, "Multi-Status"),
    (208, "Already Reported"), (226, "IM Used"), (300, "Multiple Choices"),
    (301, "Moved Permanently"),
    (302, "Found"), (303, "See Other"), (304, "Not Modified"), (305, "Use Proxy"),
    (307, "Temporary Redirect"), (308, "Permanent Redirect"), (400, "Bad Request"),
    (401, "Unauthorized"), (402, "Payment Required"), (403, "Forbidden"), (404, "Not Found"),
    (405, "Method Not Allowed"), (406, "Not Acceptable"), (407, "Proxy Authentication Required"),
    (408, "Request Timeout"), (409, "Conflict"), (410, "Gone"), (411, "Length Required"),
    (412, "Precondition Failed"), (413, "Payload Too Large"), (414, "URI Too Long"),
    (415, "Unsupported Media Type"), (416, "Range Not Satisfiable"), (417, "Expectation Failed"),
    (418, "I'm a teapot"), (421, "Misdirected Request"), (422, "Unprocessable Entity"),
    (423, "Locked"), (424, "Failed Dependency"), (425, "Too Early"), (426, "Upgrade Required"),
    (428, "Precondition Required"), (429, "Too Many Requests"),
    (431, "Request Header Fields Too Large"), (451, "Unavailable For Legal Reasons"),
    (500, "Internal Server Error"), (501, "Not Implemented"), (502, "Bad Gateway"),
    (503, "Service Unavailable"), (504, "Gateway Timeout"), (505, "HTTP Version Not Supported"),
    (506, "Variant Also Negotiates"), (507, "Insufficient Storage"), (508, "Loop Detected"),
    (510, "Not Extended"), (511, "Network Authentication Required")]

def phrase? (s : Status) : Option String := phrases.lookup s.code

end Status

structure Request where
  method : Method
  uri : Uri
  version : Version
  headers : Headers
  body : String
  deriving DecidableEq

structure Response where
  status : Status
  version : Version
  headers : Headers
  body : String
  deriving DecidableEq

def Request.empty : Request := ⟨.get, .root, .http11, .empty, ""⟩

def Response.empty : Response := ⟨.ok, .http11, .empty, ""⟩

instance : Inhabited Request := ⟨.empty⟩

instance : Inhabited Response := ⟨.empty⟩

end EdgeCache
