import EdgeCache.Json.Basic
import EdgeCache.Program.Tree

/-!
Programs as JSON: every record with all its fields, every variant with its tag and content.
-/

namespace EdgeCache

open Json (variant ofOption ofFloat)

def Token.toJson (t : Token) : Json :=
  .object [("file", .string t.file), ("line", .int t.line), ("column", .int t.column)]

def Kind.toJson (k : Kind) : Json := .string k.text

def nodeJson (t : Token) (tag : String) (content : Json) : Json :=
  .object [("token", t.toJson), ("kind", variant tag content)]

def bareJson (t : Token) (tag : String) : Json :=
  .object [("token", t.toJson), ("kind", .object [("type", .string tag)])]

mutual

def Expression.toJson : Expression → Json
  | .ident t n => nodeJson t "Ident" (.string n)
  | .ip t s => nodeJson t "Ip" (.string s)
  | .string t s => nodeJson t "String" (.string s)
  | .integer t n => nodeJson t "Integer" (.int n.toInt)
  | .float t x => nodeJson t "Float" (ofFloat x)
  | .boolean t b => nodeJson t "Boolean" (.bool b)
  | .rtime t s => nodeJson t "RTime" (.string s)
  | .prefixed t o e =>
    nodeJson t "Prefix" (.object [("operator", .string o.name), ("right", e.toJson)])
  | .group t e => nodeJson t "Group" e.toJson
  | .binary t l o r =>
    nodeJson t "Infix"
      (.object [("left", l.toJson), ("operator", .string o.name), ("right", r.toJson)])
  | .conditional t c a b =>
    nodeJson t "If"
      (.object [("condition", c.toJson), ("consequence", a.toJson), ("alternative", b.toJson)])
  | .call t f es =>
    nodeJson t "Call"
      (.object [("function", .string f), ("arguments", .array (expressionsJson es))])

def expressionsJson : List Expression → List Json
  | [] => []
  | e :: es => e.toJson :: expressionsJson es

end

def CaseTest.toJson : CaseTest → Json
  | .equal s => variant "Equal" (.string s)
  | .regex s => variant "Regex" (.string s)

mutual

def Statement.toJson : Statement → Json
  | .block t b => nodeJson t "Block" (.array (statementsJson b))
  | .declare t n k =>
    nodeJson t "Declare" (.object [("name", .string n), ("value_type", k.toJson)])
  | .set t n o e =>
    nodeJson t "Set"
      (.object [("target", .string n), ("operator", .string o.name), ("value", e.toJson)])
  | .unset t n => nodeJson t "Unset" (.object [("target", .string n)])
  | .add t n e => nodeJson t "Add" (.object [("target", .string n), ("value", e.toJson)])
  | .call t s => nodeJson t "Call" (.object [("subroutine", .string s)])
  | .branch t c a alts alt =>
    nodeJson t "If"
      (.object [("condition", c.toJson), ("consequence", .array (statementsJson a)),
        ("alternatives", .array (elseIfsJson alts)),
        ("alternative", match alt with
          | none => .null
          | some b => .array (statementsJson b))])
  | .switch t c cases d =>
    nodeJson t "Switch"
      (.object [("control", c.toJson), ("cases", .array (casesJson cases)),
        ("default", ofOption (fun n : Nat => Json.int n) d)])
  | .restart t => bareJson t "Restart"
  | .esi t => bareJson t "Esi"
  | .log t e => nodeJson t "Log" (.object [("value", e.toJson)])
  | .synthetic t e b =>
    nodeJson t "Synthetic" (.object [("value", e.toJson), ("base64", .bool b)])
  | .ret t e => nodeJson t "Return" (.object [("value", ofOption Expression.toJson e)])
  | .error t c r =>
    nodeJson t "Error"
      (.object [("code", ofOption Expression.toJson c), ("response", ofOption Expression.toJson r)])
  | .goto t d => nodeJson t "Goto" (.object [("destination", .string d)])
  | .label t n => nodeJson t "GotoDestination" (.object [("name", .string n)])
  | .apply t f es =>
    nodeJson t "FunctionCall"
      (.object [("function", .string f), ("arguments", .array (expressionsJson es))])
  | .leave t => bareJson t "Break"

def statementsJson : List Statement → List Json
  | [] => []
  | s :: ss => s.toJson :: statementsJson ss

def elseIfsJson : List ElseIf → List Json
  | [] => []
  | .mk c b :: es =>
    .object [("condition", c.toJson), ("consequence", .array (statementsJson b))] :: elseIfsJson es

def casesJson : List Case → List Json
  | [] => []
  | .mk t test b f :: cs =>
    .object [("token", t.toJson), ("test", ofOption CaseTest.toJson test),
      ("statements", .array (statementsJson b)), ("fallthrough", .bool f)] :: casesJson cs

end

def Property.toJson (p : Property) : Json :=
  .object [("token", p.token.toJson), ("key", .string p.key), ("value", p.value.toJson)]

def AclEntry.toJson (e : AclEntry) : Json :=
  .object [("negated", .bool e.negated), ("ip", .string e.ip),
    ("mask", ofOption (fun n : Nat => Json.int n) e.mask)]

def DirectorProperty.toJson : DirectorProperty → Json
  | .field p => variant "Field" p.toJson
  | .backend t fields =>
    variant "Backend"
      (.object [("token", t.toJson), ("fields", .array (fields.map Property.toJson))])

def TableEntry.toJson (e : TableEntry) : Json :=
  .object [("key", .string e.key), ("value", e.value.toJson)]

def NamedDeclaration.toJson (d : NamedDeclaration) : Json :=
  .object [("token", d.token.toJson), ("name", .string d.name)]

def Declaration.toJson : Declaration → Json
  | .acl d =>
    variant "Acl"
      (.object [("token", d.token.toJson), ("name", .string d.name),
        ("entries", .array (d.entries.map AclEntry.toJson))])
  | .backend d =>
    variant "Backend"
      (.object [("token", d.token.toJson), ("name", .string d.name),
        ("properties", .array (d.properties.map Property.toJson))])
  | .director d =>
    variant "Director"
      (.object [("token", d.token.toJson), ("name", .string d.name),
        ("director_type", .string d.policy),
        ("properties", .array (d.properties.map DirectorProperty.toJson))])
  | .table d =>
    variant "Table"
      (.object [("token", d.token.toJson), ("name", .string d.name),
        ("value_type", ofOption Kind.toJson d.kind),
        ("entries", .array (d.entries.map TableEntry.toJson))])
  | .subroutine d =>
    variant "Subroutine"
      (.object [("token", d.token.toJson), ("name", .string d.name),
        ("return_type", ofOption Kind.toJson d.returns),
        ("body", .array (statementsJson d.body))])
  | .penaltybox d => variant "Penaltybox" d.toJson
  | .ratecounter d => variant "Ratecounter" d.toJson

def Program.toJson (p : Program) : Json :=
  .object [("declarations", .array (p.declarations.map Declaration.toJson))]

end EdgeCache
