import EdgeCache.Builtin.Basic

/-!
Functions that note hints for the delivery of a response.
-/

namespace EdgeCache.Builtin

open Arguments

def noting (name : String) (required optional : List Parameter)
    (f : List Value → Context → Context) : Builtin :=
  make name required optional fun _ args => do
    modify (f args)
    return .null

def delivery : List Builtin :=
  [(noting "h2.disable_header_compression" [.string] (List.replicate 7 .string) fun args c =>
      { c with uncompressed := c.uncompressed ++ args.filterMap Value.string? }).asStatement,
    ((noting "h2.push" [.string] [.string] fun args c =>
      { c with pushed := c.pushed ++ [string args 0] }).within [.recv, .deliver]).asStatement,
    (noting "h3.alt_svc" [] [] fun _ c => { c with altSvc := true }).asStatement]

end EdgeCache.Builtin
