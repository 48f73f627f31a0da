import EdgeCache.Text.Pieces
import EdgeCache.Text.Utf8

/-!
Targets of requests: a path with a query, an authority alone, an absolute form with a scheme, or the
star. A fragment is dropped.
-/

namespace EdgeCache

/-- `target` is the path with the query as given; only an absolute form has a scheme. -/
structure Uri where
  scheme : Option String
  authority : String
  target : String
  deriving Repr, DecidableEq, Inhabited

namespace Uri

inductive Error where
  | invalidChar
  | invalidAuthority
  | invalidFormat
  | schemeTooLong
  | empty
  | tooLong
  deriving Repr, DecidableEq

def Error.message : Error → String
  | .invalidChar => "invalid uri character"
  | .invalidAuthority => "invalid authority"
  | .invalidFormat => "invalid format"
  | .schemeTooLong => "scheme too long"
  | .empty => "empty string"
  | .tooLong => "uri too long"

def root : Uri := ⟨none, "", "/"⟩

def isPathChar (c : Char) : Bool :=
  let n := c.toNat
  n == 0x21 || n == 0x22 || (0x24 ≤ n && n ≤ 0x3b) || n == 0x3d || (0x40 ≤ n && n ≤ 0x5f) ||
    (0x61 ≤ n && n ≤ 0x7e) || 0x80 ≤ n

def isQueryChar (c : Char) : Bool :=
  let n := c.toNat
  n == 0x21 || (0x24 ≤ n && n ≤ 0x3b) || n == 0x3d || (0x3f ≤ n && n ≤ 0x7e) || 0x80 ≤ n

def readTarget (cs : List Char) : Except Error String :=
  let cs := cs.takeWhile (· != '#')
  let path := cs.takeWhile (· != '?')
  let query := cs.drop (path.length + 1)
  -- the longer table also holds the braces and the bar
  if path.all isPathChar && query.all isQueryChar then .ok (String.ofList cs)
  else .error .invalidChar

def isSchemeChar (c : Char) : Bool :=
  c.isAlphanum || c == '+' || c == '-' || c == '.' || c == '~'

def startsWith (start cs : List Char) : Bool :=
  (cs.take start.length).map Char.toLower == start

def readScheme (cs : List Char) : Except Error (Option (String × List Char)) :=
  if startsWith "http://".toList cs then .ok (some ("http", cs.drop 7))
  else if startsWith "https://".toList cs then .ok (some ("https", cs.drop 8))
  else if Utf8.size cs ≤ 3 then .ok none
  else
    let name := cs.takeWhile isSchemeChar
    match cs.drop name.length with
    | ':' :: '/' :: '/' :: rest =>
      if 64 < name.length then .error .schemeTooLong else .ok (some (String.ofList name, rest))
    | _ => .ok none

def isAuthorityChar (c : Char) : Bool :=
  c.isAlphanum || "!$&'()*+,-.:;=@[]_~".toList.contains c

/-- What is kept in mind while an authority is read: the colons and the percent sign since the last
`@` or `]`, the brackets, and whether the last character was an `@`. -/
structure Scan where
  colons : Nat
  opened : Bool
  closed : Bool
  percent : Bool
  endsAt : Bool

def Scan.start : Scan := ⟨0, false, false, false, false⟩

def Scan.step (s : Scan) (c : Char) : Except Error Scan :=
  let s' := { s with endsAt := false }
  if c = ':' then
    if 8 ≤ s.colons then .error .invalidAuthority else .ok { s' with colons := s.colons + 1 }
  else if c = '[' then
    if s.percent || s.opened then .error .invalidAuthority else .ok { s' with opened := true }
  else if c = ']' then
    if !s.opened || s.closed then .error .invalidAuthority
    else .ok { s' with closed := true, colons := 0, percent := false }
  else if c = '@' then .ok { s' with endsAt := true, colons := 0, percent := false }
  else if c = '%' then .ok { s' with percent := true }
  else if isAuthorityChar c then .ok s'
  else .error .invalidChar

/-- The authority up to `/`, `?` or `#`, with what follows. Brackets are balanced, one colon at most
stands after them or the `@`, and something follows the `@`. -/
def readAuthority (cs : List Char) : Except Error (String × List Char) := do
  let name := cs.takeWhile fun c => c != '/' && c != '?' && c != '#'
  let s ← name.foldlM Scan.step Scan.start
  if s.opened != s.closed || 1 < s.colons || s.endsAt || s.percent then
    throw .invalidAuthority
  return (String.ofList name, cs.drop name.length)

def maxSize : Nat := 65534

def ofText (text : String) : Except Error Uri := do
  let cs := text.toList
  if maxSize < Utf8.size cs then throw .tooLong
  match cs with
  | [] => throw .empty
  | ['*'] => return ⟨none, "", "*"⟩
  | '/' :: _ => return ⟨none, "", ← readTarget cs⟩
  | [c] =>
    let (name, rest) ← readAuthority [c]
    if rest.isEmpty then return ⟨none, name, ""⟩ else throw .invalidChar
  | cs =>
    match ← readScheme cs with
    | none =>
      let (name, rest) ← readAuthority cs
      if rest.isEmpty then return ⟨none, name, ""⟩ else throw .invalidFormat
    | some (scheme, rest) =>
      if rest.isEmpty then throw .empty
      let (name, rest) ← readAuthority rest
      if name.isEmpty then throw .invalidFormat
      return ⟨some scheme, name, ← readTarget rest⟩

def path (u : Uri) : String :=
  if u.target.isEmpty && u.scheme.isNone then ""
  else
    let p := u.target.toList.takeWhile (· != '?')
    if p.isEmpty then "/" else String.ofList p

def query? (u : Uri) : Option String :=
  (Pieces.cutAt? '?' u.target.toList).map fun r => String.ofList r.2

def pathAndQuery? (u : Uri) : Option String :=
  if u.scheme.isSome || u.authority.isEmpty then
    some (if u.target.isEmpty then "/" else u.target)
  else none

def resource (u : Uri) : String := u.pathAndQuery?.getD u.path

def host? (u : Uri) : Option String :=
  if u.authority.isEmpty then none
  else
    let cs := u.authority.toList
    let hostPort := ((Pieces.splitOn '@' cs).getLast?).getD cs
    match hostPort with
    | '[' :: _ => some (String.ofList (hostPort.takeWhile (· != ']') ++ [']']))
    | _ => some (String.ofList (hostPort.takeWhile (· != ':')))

def text (u : Uri) : String :=
  (match u.scheme with
    | some s => s ++ "://"
    | none => "") ++ u.authority ++ u.path ++
  (match u.query? with
    | some q => "?" ++ q
    | none => "")

end Uri

end EdgeCache
