import EdgeCache.Declarations
import EdgeCache.Text.Integer

/-!
Directors: pools of backends with a policy for picking one. What a declaration says is checked
against the policy, in the order in which it stands.
-/

namespace EdgeCache

inductive Policy where
  | random
  | fallback
  | hash
  | client
  | ring
  deriving Repr, DecidableEq

namespace Policy

def all : List Policy := [random, fallback, hash, client, ring]

def text : Policy → String
  | random => "random"
  | fallback => "fallback"
  | hash => "hash"
  | client => "client"
  | ring => "chash"

def ofText? (s : String) : Option Policy := all.find? fun p => p.text == s

end Policy

inductive RingKey where
  | object
  | client
  deriving Repr, DecidableEq

namespace RingKey

def text : RingKey → String
  | object => "object"
  | client => "client"

def ofText? (s : String) : Option RingKey := [object, client].find? fun k => k.text == s

end RingKey

structure Member where
  backend : Backend
  id : Option String
  weight : Int

structure Director where
  name : String
  policy : Policy
  members : List Member
  quorum : Int
  retries : Int
  key : RingKey
  seed : UInt32
  ringNodes : Int

namespace Director

def maxRingNodes : Int := 8388608

def initial (name : String) (policy : Policy) : Director :=
  ⟨name, policy, [], 0, 0, .client, 0, 256⟩

def integer (p : Property) (field : String) : Except DirectorError Int :=
  match p.value with
  | .integer _ n => .ok n.toInt
  | _ => .error (.config p.token s!"{field} value must be an integer")

/-- A number, or a text of a number with percent signs behind it. -/
def readQuorum (p : Property) : Except DirectorError Int :=
  match p.value with
  | .integer _ n => .ok n.toInt
  | .string _ text =>
    let digits := (text.toList.reverse.dropWhile (· == '%')).reverse
    match Integer.readSigned 10 digits with
    | .ok n => .ok n
    | .error _ =>
      .error (.config p.token
        s!"Invalid quorum value '{text}' found. Value must be percentage string like '50%'")
  | _ => .error (.config p.token "quorum value must be percentage prefixed value")

structure Draft where
  backend : Option Backend
  id : Option String
  weight : Int

def memberField (d : Declarations) (draft : Draft) (p : Property) : Except DirectorError Draft := do
  match p.key with
  | "backend" =>
    match p.value with
    | .ident _ name =>
      match d.backend? name with
      | none => .error (.config p.token s!"backend '{name}' is not found")
      | some b =>
        if b.director?.isSome then
          .error (.config p.token s!"backend '{name}' is a director and cannot be a pool member")
        else return { draft with backend := some b }
    | _ => .error (.config p.token "backend value must be an identifier")
  | "id" =>
    match p.value with
    | .string _ id => return { draft with id := some id }
    | _ => .error (.config p.token "id value must be a string")
  | "weight" => return { draft with weight := ← integer p "weight" }
  | other => .error (.config p.token s!"Unexpected director backend property '{other}' found")

/-- Members on a ring need an identity, all others a positive weight. -/
def memberOf (policy : Policy) (d : Declarations) (token : Token) (fields : List Property) :
    Except DirectorError Member := do
  let draft ← fields.foldlM (memberField d) ⟨none, none, 0⟩
  match draft.backend with
  | none => .error (.config token ".backend property must be set")
  | some b =>
    if policy = .ring then
      if draft.id.getD "" = "" then
        .error (.config token s!".id property must be set when director type is '{policy.text}'")
    else if draft.weight = 0 then
      .error (.config token s!".weight property must be set when director type is '{policy.text}'")
    else if draft.weight < 0 then
      .error (.config token "weight value must be a positive integer")
    return ⟨b, draft.id, draft.weight⟩

def onlyFor (policy : Policy) (v : Director) (p : Property) : Except DirectorError Unit :=
  if v.policy = policy then .ok ()
  else .error (.config p.token
    s!".{p.key} field must be present only in {policy.text} director type")

def setting (v : Director) (p : Property) : Except DirectorError Director := do
  match p.key with
  | "quorum" =>
    if v.policy = .fallback then
      .error (.config p.token ".quorum field must not be present in fallback director type")
    return { v with quorum := ← readQuorum p }
  | "retries" =>
    onlyFor .random v p
    return { v with retries := ← integer p "retries" }
  | "key" =>
    onlyFor .ring v p
    let named := match p.value with
      | .ident _ s | .string _ s => RingKey.ofText? s
      | _ => none
    match named with
    | some k => return { v with key := k }
    | none => .error (.config p.token ".key value must be either of object or client")
  | "seed" =>
    onlyFor .ring v p
    let n ← integer p "seed"
    if 0 ≤ n ∧ n < twoTo 32 then return { v with seed := UInt32.ofNat n.toNat }
    else .error (.config p.token ".seed value must fit in 32 bits")
  | "vnodes_per_node" =>
    onlyFor .ring v p
    let n ← integer p "vnodes_per_node"
    if maxRingNodes < n then
      .error (.config p.token s!".vnodes_per_node value is limited under {maxRingNodes}")
    return { v with ringNodes := n }
  | other => .error (.config p.token s!"Unexpected director property '{other}' found")

def add (d : Declarations) (v : Director) : DirectorProperty → Except DirectorError Director
  | .backend token fields => do
    return { v with members := v.members ++ [← memberOf v.policy d token fields] }
  | .field p => v.setting p

def ofDeclaration (decl : DirectorDeclaration) (d : Declarations) :
    Except DirectorError Director := do
  match Policy.ofText? decl.policy with
  | none => .error (.config decl.token s!"Unrecognized director type '{decl.policy}' provided")
  | some policy =>
    let v ← decl.properties.foldlM (add d) (initial decl.name policy)
    if v.members.isEmpty then
      .error (.config decl.token s!"At least one backend must be specified in director '{v.name}'")
    return v

end Director

end EdgeCache
