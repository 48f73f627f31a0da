import EdgeCache.Text.Utf8

/-!
Header fields of messages: names without regard to case, values as bytes, and the fields of a
message in order, where one name may have several values.
-/

namespace EdgeCache

def isTokenChar (c : Char) : Bool :=
  c.isAlphanum || "!#$%&'*+-.^_|~".toList.contains c || c.toNat == 0x60

structure HeaderName where
  text : String
  deriving Repr, DecidableEq

def HeaderName.maxLength : Nat := 65535

def HeaderName.ofText? (s : String) : Option HeaderName :=
  let cs := s.toList
  if cs.isEmpty ∨ HeaderName.maxLength < cs.length then none
  else if cs.all isTokenChar then some ⟨String.ofList (cs.map Char.toLower)⟩
  else none

def isFieldByte (b : UInt8) : Bool := (32 ≤ b.toNat && b.toNat != 127) || b.toNat == 9

structure HeaderValue where
  bytes : List UInt8
  valid : bytes.all isFieldByte = true
  deriving DecidableEq

namespace HeaderValue

def ofBytes? (bytes : List UInt8) : Option HeaderValue :=
  if h : bytes.all isFieldByte = true then some ⟨bytes, h⟩ else none

def ofText? (s : String) : Option HeaderValue := ofBytes? (Utf8.ofString s)

def isVisible (b : UInt8) : Bool := (32 ≤ b.toNat && b.toNat < 127) || b.toNat == 9

def text? (v : HeaderValue) : Option String :=
  if v.bytes.all isVisible then
    some (String.ofList (v.bytes.map fun b => Char.ofNat b.toNat))
  else none

end HeaderValue

structure Headers where
  fields : List (HeaderName × HeaderValue)
  deriving DecidableEq

namespace Headers

def empty : Headers := ⟨[]⟩

instance : Inhabited Headers := ⟨empty⟩

def values (h : Headers) (n : HeaderName) : List HeaderValue :=
  (h.fields.filter fun f => f.1 = n).map (·.2)

def first? (h : Headers) (n : HeaderName) : Option HeaderValue := (h.values n).head?

def text? (h : Headers) (name : String) : Option String :=
  ((HeaderName.ofText? name).bind h.first?).bind HeaderValue.text?

def texts (h : Headers) (name : String) : List String :=
  match HeaderName.ofText? name with
  | some n => (h.values n).filterMap HeaderValue.text?
  | none => []

def remove (h : Headers) (n : HeaderName) : Headers := ⟨h.fields.filter fun f => f.1 ≠ n⟩

def append (h : Headers) (n : HeaderName) (v : HeaderValue) : Headers := ⟨h.fields ++ [(n, v)]⟩

def insert (h : Headers) (n : HeaderName) (v : HeaderValue) : Headers := (h.remove n).append n v

def names (h : Headers) : List HeaderName :=
  h.fields.foldl (fun ns f => if ns.contains f.1 then ns else ns ++ [f.1]) []

end Headers

end EdgeCache
