import EdgeCache.Builtin.Basic
import EdgeCache.Pattern.Replacement
import EdgeCache.Text.Integer
import EdgeCache.Text.Percent
import EdgeCache.Unicode.Case
import EdgeCache.Variable.Resolver

/-!
Functions on texts: case, parts, replacing, and the coding of URLs.
-/

namespace EdgeCache.Builtin

open Arguments
open Value (ofString ofChars ofBool ofInteger ofInt unsetString)

def startsWith (part s : List Char) : Bool := part.isPrefixOf s

def endsWith (part s : List Char) : Bool := part.reverse.isPrefixOf s.reverse

/-- The sum of two words, which panics where it is none. -/
def sum {ε : Type} (a b : Int64) : Except (Stop ε) Int64 :=
  if Int64.minValue.toInt ≤ a.toInt + b.toInt ∧ a.toInt + b.toInt ≤ Int64.maxValue.toInt then
    .ok (a + b)
  else .error .panic

def substringStart {ε : Type} (size offset : Int64) : Except (Stop ε) Int64 :=
  if offset < 0 then sum size offset else .ok offset

def substringStop {ε : Type} (size start : Int64) : Option Int64 → Except (Stop ε) Int64
  | none => .ok size
  | some n => if n < 0 then sum size n else (min · size) <$> sum start n

/-- The characters from `offset`, which counts from the end if negative, in the length that is
given; a negative length stops that many characters before the end. -/
def substring? {ε : Type} (cs : List Char) (offset : Int64) (length : Option Int64) :
    Except (Stop ε) (Option (List Char)) := do
  let size : Int64 := .ofInt cs.length
  let start ← substringStart size offset
  if start < 0 ∨ size < start then return none
  let stop ← substringStop size start length
  if stop < start then return none
  return some ((cs.drop start.toInt.toNat).take (stop.toInt - start.toInt).toNat)

def substring : Body := fun _ args => do
  let part ← ofExcept (substring? (chars args 0) (integer args 1) (integer? args 2))
  return (part.map ofChars).getD unsetString

def replaceMatches (all : Bool) (args : List Value) : Except String Value :=
  let pattern := string args 1
  match Pattern.ofText pattern with
  | .error e => .error (ValueError.invalidPattern pattern e).message
  | .ok p => .ok (ofString (Pattern.Replacement.replace p all (string args 0) (string args 2)))

/-- Puts all values of a header into one field. Values that do not show as text are dropped if at
least two others are there. -/
def collectHeader (c : Context) (name separator : String) : Except ValueError Context := do
  match Variable.headerOf? name with
  | none => .error (.invalidHeader name)
  | some (m, field) =>
    let key ← Variable.headerName field
    let values := ((c.headers m).values key).filterMap HeaderValue.text?
    if values.length < 2 then return c
    else
      let joined ← Variable.headerValue field (String.intercalate separator values)
      return c.setHeaders ((c.headers m).insert key joined) m

def collectField (field separator : String) : EStateM ValueError Headers Unit := do
  let key ← ofExcept (Variable.headerName field)
  let values := ((← get).values key).filterMap HeaderValue.text?
  if values.length < 2 then return ()
  else Headers.insertText key field (String.intercalate separator values)

def collectInPlace (name separator : String) : EStateM ValueError Context Unit :=
  match Variable.headerOf? name with
  | none => throw (.invalidHeader name)
  | some (m, field) =>
    onPart (·.headers m) (fun c h => c.setHeaders h m) (collectField field separator)

def collect : Body := fun _ args => do
  let separator := ((args[1]?).bind Value.string?).getD ", "
  (collectInPlace (Arguments.name args 0) separator).adaptExcept fun e =>
    .cause (.failed "std.collect" e.message)
  return .null

def repeated (cs : List Char) (n : Int64) : List Char :=
  if cs.isEmpty then [] else (List.replicate n.toInt.toNat cs).flatten

def replaceStart (part new s : List Char) : List Char :=
  if !part.isEmpty && startsWith part s then new ++ s.drop part.length else s

def replaceEnd (part new s : List Char) : List Char :=
  if !part.isEmpty && endsWith part s then s.take (s.length - part.length) ++ new else s

def strings : List Builtin :=
  [plain "std.toupper" [.string] [] fun args => ofChars (Unicode.Case.upper (chars args 0)),
    plain "std.tolower" [.string] [] fun args => ofChars (Unicode.Case.lower (chars args 0)),
    (make "std.collect" [.ident] [.string] collect).asStatement,
    plain "std.strlen" [.string] [] fun args => ofInt (Utf8.size (chars args 0)),
    plain "std.strrev" [.string] [] fun args => ofChars (chars args 0).reverse,
    plain "std.strrep" [.string, .integer] [] fun args =>
      ofChars (repeated (chars args 0) (integer args 1)),
    plain "std.prefixof" [.string, .string] [] fun args =>
      ofBool (startsWith (chars args 1) (chars args 0)),
    plain "std.suffixof" [.string, .string] [] fun args =>
      ofBool (endsWith (chars args 1) (chars args 0)),
    plain "std.strstr" [.string, .string] [] fun args =>
      ((Pieces.fromPart? (chars args 1) (chars args 0)).map ofChars).getD unsetString,
    plain "std.replace" [.string, .string, .string] [] fun args =>
      ofChars (Pieces.replaceFirst (chars args 1) (chars args 2) (chars args 0)),
    plain "std.replaceall" [.string, .string, .string] [] fun args =>
      ofChars (Pieces.replaceAll (chars args 1) (chars args 2) (chars args 0)),
    plain "std.replace_prefix" [.string, .string, .string] [] fun args =>
      ofChars (replaceStart (chars args 1) (chars args 2) (chars args 0)),
    plain "std.replace_suffix" [.string, .string, .string] [] fun args =>
      ofChars (replaceEnd (chars args 1) (chars args 2) (chars args 0)),
    make "substr" [.string, .integer] [.integer] substring,
    failing "regsub" [.string, .string, .string] [] (replaceMatches false),
    failing "regsuball" [.string, .string, .string] [] (replaceMatches true),
    plain "urlencode" [.string] [] fun args => ofChars (Percent.encode (chars args 0)),
    plain "urldecode" [.string] [] fun args => ofChars (Percent.decode (chars args 0))]

end EdgeCache.Builtin
