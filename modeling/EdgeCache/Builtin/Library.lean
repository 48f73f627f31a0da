import EdgeCache.Builtin.Assertions
import EdgeCache.Builtin.Chance
import EdgeCache.Builtin.Ciphers
import EdgeCache.Builtin.Conversions
import EdgeCache.Builtin.Delivery
import EdgeCache.Builtin.Digests
import EdgeCache.Builtin.Identifiers
import EdgeCache.Builtin.Math
import EdgeCache.Builtin.Queries
import EdgeCache.Builtin.Rates
import EdgeCache.Builtin.Strings
import EdgeCache.Builtin.Tables
import EdgeCache.Builtin.Times

/-!
All predefined functions by name.
-/

namespace EdgeCache.Builtin

def library : List Builtin :=
  strings ++ conversions ++ math ++ ciphers ++ digests ++ times ++ queries ++ identifiers ++
    tables ++
    chance ++ rates ++ delivery ++ assertions

def ofName? (name : String) : Option Builtin := library.find? fun b => b.name == name

def resolve (env : Environment) (c : Context) (name : String) : Except Cause Builtin :=
  match ofName? name with
  | none => .error (.undefinedFunction name)
  | some b =>
    if b.isTesting && !env.config.testing then .error (.undefinedFunction name)
    else if b.scopes.contains c.scope then .ok b
    else .error (.functionNotInScope name c.scope)

end EdgeCache.Builtin
