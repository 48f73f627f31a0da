import EdgeCache.Builtin.Basic
import EdgeCache.Message.Query

/-!
Functions on the query of a URL.
-/

namespace EdgeCache.Builtin

open Arguments
open Value (ofChars)

def filterSeparator : Char := Char.ofNat 0

def query (args : List Value) : Query := Query.ofText (chars args 0)

def onQuery (name : String) (parameters : List Parameter) (f : Query → List Value → Query) :
    Builtin :=
  plain name parameters [] fun args => ofChars (f (query args) args).text

def isNamed (args : List Value) (name : List Char) : Bool :=
  (Pieces.splitOn filterSeparator (chars args 1)).contains name

def filterMatches (kept : Bool) (args : List Value) : Except String Value :=
  let pattern := string args 1
  match Pattern.ofText pattern with
  | .error e => .error (ValueError.invalidPattern pattern e).message
  | .ok p => .ok (ofChars ((query args).keep fun n => p.isMatch (String.ofList n) == kept).text)

def queries : List Builtin :=
  [plain "querystring.get" [.string, .string] [] fun args =>
      (((query args).get? (chars args 1)).map ofChars).getD Value.unsetString,
    onQuery "querystring.set" [.string, .string, .string] fun q args => q.set (chars args 1)
      (chars args 2),
    onQuery "querystring.add" [.string, .string, .string] fun q args => q.add (chars args 1)
      (chars args 2),
    onQuery "querystring.remove" [.string] fun q _ => { q with segments := [] },
    onQuery "querystring.clean" [.string] fun q _ => q.clean,
    onQuery "querystring.sort" [.string] fun q _ => q.sort,
    onQuery "querystring.filter" [.string, .string] fun q args => q.keep fun n => !isNamed args n,
    onQuery "querystring.filter_except" [.string, .string] fun q args => q.keep (isNamed args),
    failing "querystring.regfilter" [.string, .string] [] (filterMatches false),
    failing "querystring.regfilter_except" [.string, .string] [] (filterMatches true),
    plain "querystring.filtersep" [] [] fun _ => ofChars [filterSeparator]]

end EdgeCache.Builtin
