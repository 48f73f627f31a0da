import EdgeCache.Builtin.Basic

/-!
Functions that make and check universally unique identifiers.
-/

namespace EdgeCache.Builtin

open Arguments
open Value (ofChars ofBool)

def ofUuid (u : Uuid) : Value := ofChars u.hyphenated

def named (make : Uuid → List UInt8 → Uuid) (args : List Value) : Except String Value :=
  match Uuid.read? (bytes args 0) with
  | some space => .ok (ofUuid (make space (bytes args 1)))
  | none => .error s!"invalid namespace {Quoted.quote (string args 0)}: not an identifier"

def drawn : Body := fun _ _ => do
  let (u, g) := Uuid.draw (← get).generator
  modify fun c => { c with generator := g }
  return ofUuid u

def hasVersion (name : String) (n : Nat) : Builtin :=
  plain name [.string] [] fun args =>
    ofBool ((Uuid.read? (bytes args 0)).any fun u => u.version == n)

def identifiers : List Builtin :=
  [failing "uuid.version3" [.string, .string] [] (named Uuid.ofNameMd5),
    make "uuid.version4" [] [] drawn,
    failing "uuid.version5" [.string, .string] [] (named Uuid.ofNameSha1),
    plain "uuid.is_valid" [.string] [] fun args => ofBool (Uuid.read? (bytes args 0)).isSome,
    hasVersion "uuid.is_version3" 3,
    hasVersion "uuid.is_version4" 4,
    hasVersion "uuid.is_version5" 5,
    plain "uuid.dns" [] [] fun _ => ofUuid Uuid.dns,
    plain "uuid.url" [] [] fun _ => ofUuid Uuid.url,
    plain "uuid.oid" [] [] fun _ => ofUuid Uuid.oid,
    plain "uuid.x500" [] [] fun _ => ofUuid Uuid.x500]

end EdgeCache.Builtin
