import EdgeCache.Builtin.Basic

/-!
Functions that look up entries of tables. A look-up that does not fit the table fails, but carries
the default as the value to go on with; a key that is not there gives the default.
-/

namespace EdgeCache.Builtin

open Arguments

def entryValue? (d : Declarations) : Kind → Expression → Option Value
  | .string, .string _ s => some (.ofString s)
  | .bool, .boolean _ b => some (.ofBool b)
  | .integer, .integer _ n => some (.ofInteger n)
  | .float, .integer _ n => some (.ofFloat n.toFloat)
  | .float, .float _ x => some (.ofFloat x)
  | .rtime, .rtime _ s => (Duration.read? s).map .ofRTime
  | .ip, .ip _ s | .ip, .string _ s => (Address.read? s).map .ofIp
  | .acl, .ident _ n => (d.acl? n).map .acl
  | .backend, .ident _ n => (d.backend? n).map .backend
  | _, _ => none

def entryAt? (t : TableDeclaration) (key : String) : Option TableEntry :=
  t.entries.find? fun e => e.key == key

def lookUp (name : String) (kind : Kind) (d : Declarations) (args : List Value) :
    Except FunctionError Value :=
  let table := Arguments.name args 0
  let key := string args 1
  let default := args[2]?.getD (.unset kind)
  match d.table? table with
  | none => .error (.fallback name s!"table {table} is not declared" default)
  | some t =>
    if t.valueKind ≠ kind then
      .error (.fallback name s!"table {table} holds {t.valueKind.text} values, not {kind.text}"
        default)
    else
      match entryAt? t key with
      | none => .ok default
      | some e =>
        match entryValue? d kind e.value with
        | some v => .ok v
        | none =>
          .error (.fallback name
            s!"entry {Quoted.quote key} of table {table} is not a valid {kind.text}" default)

def lookingUp (name : String) (kind : Kind) : Builtin :=
  make name [.table, .string] [.is kind] fun env args =>
    Stop.lift (lookUp name kind env.declarations args)

def hasKey : Body := fun env args =>
  let table := env.declarations.table? (Arguments.name args 0)
  return .ofBool (table.any fun t => (entryAt? t (string args 1)).isSome)

def tables : List Builtin :=
  [lookingUp "table.lookup" .string,
    lookingUp "table.lookup_bool" .bool,
    lookingUp "table.lookup_integer" .integer,
    lookingUp "table.lookup_float" .float,
    lookingUp "table.lookup_ip" .ip,
    lookingUp "table.lookup_rtime" .rtime,
    lookingUp "table.lookup_acl" .acl,
    lookingUp "table.lookup_backend" .backend,
    make "table.contains" [.table, .string] [] hasKey]

end EdgeCache.Builtin
