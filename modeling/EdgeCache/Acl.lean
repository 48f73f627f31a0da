import EdgeCache.Address
import EdgeCache.Program.Tree
import EdgeCache.Value.Error

/-!
Access lists: address ranges that match or are excepted. Of the ranges that hold an address, the
longest decides, and of those as long, the last.
-/

namespace EdgeCache

structure AclRule where
  negated : Bool
  network : Address
  length : Nat
  deriving DecidableEq

structure Acl where
  name : String
  rules : List AclRule
  deriving DecidableEq

namespace AclRule

def contains (r : AclRule) (a : Address) : Bool := Address.agree r.length r.network a

def ofEntry (e : AclEntry) : Except ValueError AclRule :=
  match Address.read? e.ip with
  | none => .error (.invalidAcl e.ip "not an IP address")
  | some network =>
    let length := e.mask.getD network.width
    if network.width < length then
      .error (.invalidAcl s!"{e.ip}/{length}" s!"prefix exceeds {network.width}")
    else .ok ⟨e.negated, network, length⟩

end AclRule

namespace Acl

def ofDeclaration (d : AclDeclaration) : Except ValueError Acl := do
  return ⟨d.name, ← d.entries.mapM AclRule.ofEntry⟩

def prefer (best : Option AclRule) (r : AclRule) : Option AclRule :=
  match best with
  | some b => if b.length ≤ r.length then some r else some b
  | none => some r

def deciding? (acl : Acl) (a : Address) : Option AclRule :=
  (acl.rules.filter fun r => r.contains a).foldl prefer none

def matches? (acl : Acl) (a : Address) : Bool :=
  match acl.deciding? a with
  | some r => !r.negated
  | none => false

end Acl

end EdgeCache
