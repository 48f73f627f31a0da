import EdgeCache.Json.Basic
import EdgeCache.Program.Tree

/-!
Programs read from JSON. Places and most optional parts may be left out; a part that is there must
have its form. The recursion goes as deep as the data is nested.
-/

namespace EdgeCache

open Json (record? field? fieldOr? optional? variant? list?)

def sizeLimit : Nat := Word.count - 1

def Token.ofJson? (j : Json) : Option Token := do
  let fs ← record? ["file", "line", "column"] j
  let file ← fieldOr? fs "file" "" Json.text?
  let line ← fieldOr? fs "line" 0 (Json.nat? sizeLimit)
  let column ← fieldOr? fs "column" 0 (Json.nat? sizeLimit)
  return ⟨file, line, column⟩

def token? (fs : List (String × Json)) : Option Token := fieldOr? fs "token" .unknown Token.ofJson?

def Kind.ofJson? (j : Json) : Option Kind := j.enumName?.bind Kind.ofText?

def PrefixOp.ofJson? (j : Json) : Option PrefixOp := j.enumName?.bind PrefixOp.ofName?

def InfixOp.ofJson? (j : Json) : Option InfixOp := j.enumName?.bind InfixOp.ofName?

def AssignOp.ofJson? (j : Json) : Option AssignOp := j.enumName?.bind AssignOp.ofName?

def node? (j : Json) : Option (Token × String × Option Json) := do
  let fs ← record? ["token", "kind"] j
  let t ← token? fs
  let (tag, content) ← field? fs "kind" variant?
  return (t, tag, content)

def decodeExpression : Nat → Json → Option Expression
  | 0, _ => none
  | fuel + 1, j => do
    let (t, tag, content) ← node? j
    let j ← content
    match tag with
    | "Ident" => return .ident t (← j.text?)
    | "Ip" => return .ip t (← j.text?)
    | "String" => return .string t (← j.text?)
    | "Integer" => return .integer t (← j.int64?)
    | "Float" => return .float t (← j.float?)
    | "Boolean" => return .boolean t (← j.bool?)
    | "RTime" => return .rtime t (← j.text?)
    | "Prefix" =>
      let fs ← record? ["operator", "right"] j
      let o ← field? fs "operator" PrefixOp.ofJson?
      let e ← field? fs "right" (decodeExpression fuel)
      return .prefixed t o e
    | "Group" => return .group t (← decodeExpression fuel j)
    | "Infix" =>
      let fs ← record? ["left", "operator", "right"] j
      let l ← field? fs "left" (decodeExpression fuel)
      let o ← field? fs "operator" InfixOp.ofJson?
      let r ← field? fs "right" (decodeExpression fuel)
      return .binary t l o r
    | "If" =>
      let fs ← record? ["condition", "consequence", "alternative"] j
      let c ← field? fs "condition" (decodeExpression fuel)
      let a ← field? fs "consequence" (decodeExpression fuel)
      let b ← field? fs "alternative" (decodeExpression fuel)
      return .conditional t c a b
    | "Call" =>
      let fs ← record? ["function", "arguments"] j
      let f ← field? fs "function" Json.text?
      let es ← field? fs "arguments" (list? (decodeExpression fuel))
      return .call t f es
    | _ => none

def Expression.ofJson? (j : Json) : Option Expression := decodeExpression (j.depth + 1) j

def CaseTest.ofJson? (j : Json) : Option CaseTest := do
  let (tag, content) ← variant? j
  let s ← content.bind Json.text?
  match tag with
  | "Equal" => return .equal s
  | "Regex" => return .regex s
  | _ => none

def unit? (content : Option Json) : Option Unit :=
  match content with
  | none => some ()
  | some j => if j.isNull then some () else none

def decodeElseIf (body? : Json → Option (List Statement)) (j : Json) : Option ElseIf := do
  let fs ← record? ["condition", "consequence"] j
  return ElseIf.mk (← field? fs "condition" Expression.ofJson?) (← field? fs "consequence" body?)

def decodeCase (body? : Json → Option (List Statement)) (j : Json) : Option Case := do
  let fs ← record? ["token", "test", "statements", "fallthrough"] j
  let t ← token? fs
  let test ← optional? fs "test" CaseTest.ofJson?
  let b ← field? fs "statements" body?
  let f ← fieldOr? fs "fallthrough" false Json.bool?
  return Case.mk t test b f

def decodeStatement : Nat → Json → Option Statement
  | 0, _ => none
  | fuel + 1, j => do
    let body? := list? (decodeStatement fuel)
    let (t, tag, content) ← node? j
    match tag with
    | "Restart" => (unit? content).map fun _ => .restart t
    | "Esi" => (unit? content).map fun _ => .esi t
    | "Break" => (unit? content).map fun _ => .leave t
    | "Block" => return .block t (← content.bind body?)
    | "Declare" =>
      let fs ← content.bind (record? ["name", "value_type"])
      return .declare t (← field? fs "name" Json.text?) (← field? fs "value_type" Kind.ofJson?)
    | "Set" =>
      let fs ← content.bind (record? ["target", "operator", "value"])
      return .set t (← field? fs "target" Json.text?) (← field? fs "operator" AssignOp.ofJson?)
        (← field? fs "value" Expression.ofJson?)
    | "Unset" =>
      let fs ← content.bind (record? ["target"])
      return .unset t (← field? fs "target" Json.text?)
    | "Add" =>
      let fs ← content.bind (record? ["target", "value"])
      return .add t (← field? fs "target" Json.text?) (← field? fs "value" Expression.ofJson?)
    | "Call" =>
      let fs ← content.bind (record? ["subroutine"])
      return .call t (← field? fs "subroutine" Json.text?)
    | "If" =>
      let fs ← content.bind (record? ["condition", "consequence", "alternatives", "alternative"])
      let c ← field? fs "condition" Expression.ofJson?
      let a ← field? fs "consequence" body?
      let alts ← fieldOr? fs "alternatives" [] (list? (decodeElseIf body?))
      let alt ← optional? fs "alternative" body?
      return .branch t c a alts alt
    | "Switch" =>
      let fs ← content.bind (record? ["control", "cases", "default"])
      let c ← field? fs "control" Expression.ofJson?
      let cases ← field? fs "cases" (list? (decodeCase body?))
      let d ← optional? fs "default" (Json.nat? sizeLimit)
      return .switch t c cases d
    | "Log" =>
      let fs ← content.bind (record? ["value"])
      return .log t (← field? fs "value" Expression.ofJson?)
    | "Synthetic" =>
      let fs ← content.bind (record? ["value", "base64"])
      return .synthetic t (← field? fs "value" Expression.ofJson?)
        (← fieldOr? fs "base64" false Json.bool?)
    | "Return" =>
      let fs ← content.bind (record? ["value"])
      return .ret t (← optional? fs "value" Expression.ofJson?)
    | "Error" =>
      let fs ← content.bind (record? ["code", "response"])
      return .error t (← optional? fs "code" Expression.ofJson?)
        (← optional? fs "response" Expression.ofJson?)
    | "Goto" =>
      let fs ← content.bind (record? ["destination"])
      return .goto t (← field? fs "destination" Json.text?)
    | "GotoDestination" =>
      let fs ← content.bind (record? ["name"])
      return .label t (← field? fs "name" Json.text?)
    | "FunctionCall" =>
      let fs ← content.bind (record? ["function", "arguments"])
      return .apply t (← field? fs "function" Json.text?)
        (← field? fs "arguments" (list? Expression.ofJson?))
    | _ => none

def Statement.ofJson? (j : Json) : Option Statement := decodeStatement (j.depth + 1) j

def Property.ofJson? (j : Json) : Option Property := do
  let fs ← record? ["token", "key", "value"] j
  return ⟨← token? fs, ← field? fs "key" Json.text?, ← field? fs "value" Expression.ofJson?⟩

def AclEntry.ofJson? (j : Json) : Option AclEntry := do
  let fs ← record? ["negated", "ip", "mask"] j
  return ⟨← fieldOr? fs "negated" false Json.bool?, ← field? fs "ip" Json.text?,
    ← optional? fs "mask" (Json.nat? 255)⟩

def AclDeclaration.ofJson? (j : Json) : Option AclDeclaration := do
  let fs ← record? ["token", "name", "entries"] j
  return ⟨← token? fs, ← field? fs "name" Json.text?, ← field? fs "entries"
    (list? AclEntry.ofJson?)⟩

def BackendDeclaration.ofJson? (j : Json) : Option BackendDeclaration := do
  let fs ← record? ["token", "name", "properties"] j
  return ⟨← token? fs, ← field? fs "name" Json.text?,
    ← fieldOr? fs "properties" [] (list? Property.ofJson?)⟩

def DirectorProperty.ofJson? (j : Json) : Option DirectorProperty := do
  let (tag, content) ← variant? j
  let j ← content
  match tag with
  | "Field" => return .field (← Property.ofJson? j)
  | "Backend" =>
    let fs ← record? ["token", "fields"] j
    return .backend (← token? fs) (← field? fs "fields" (list? Property.ofJson?))
  | _ => none

def DirectorDeclaration.ofJson? (j : Json) : Option DirectorDeclaration := do
  let fs ← record? ["token", "name", "director_type", "properties"] j
  return ⟨← token? fs, ← field? fs "name" Json.text?, ← field? fs "director_type" Json.text?,
    ← field? fs "properties" (list? DirectorProperty.ofJson?)⟩

def TableEntry.ofJson? (j : Json) : Option TableEntry := do
  let fs ← record? ["key", "value"] j
  return ⟨← field? fs "key" Json.text?, ← field? fs "value" Expression.ofJson?⟩

def TableDeclaration.ofJson? (j : Json) : Option TableDeclaration := do
  let fs ← record? ["token", "name", "value_type", "entries"] j
  return ⟨← token? fs, ← field? fs "name" Json.text?, ← optional? fs "value_type" Kind.ofJson?,
    ← field? fs "entries" (list? TableEntry.ofJson?)⟩

def SubroutineDeclaration.ofJson? (j : Json) : Option SubroutineDeclaration := do
  let fs ← record? ["token", "name", "return_type", "body"] j
  return ⟨← token? fs, ← field? fs "name" Json.text?, ← optional? fs "return_type" Kind.ofJson?,
    ← field? fs "body" (list? Statement.ofJson?)⟩

def NamedDeclaration.ofJson? (j : Json) : Option NamedDeclaration := do
  let fs ← record? ["token", "name"] j
  return ⟨← token? fs, ← field? fs "name" Json.text?⟩

def Declaration.ofJson? (j : Json) : Option Declaration := do
  let (tag, content) ← variant? j
  let j ← content
  match tag with
  | "Acl" => return .acl (← AclDeclaration.ofJson? j)
  | "Backend" => return .backend (← BackendDeclaration.ofJson? j)
  | "Director" => return .director (← DirectorDeclaration.ofJson? j)
  | "Table" => return .table (← TableDeclaration.ofJson? j)
  | "Subroutine" => return .subroutine (← SubroutineDeclaration.ofJson? j)
  | "Penaltybox" => return .penaltybox (← NamedDeclaration.ofJson? j)
  | "Ratecounter" => return .ratecounter (← NamedDeclaration.ofJson? j)
  | _ => none

def Program.ofJson? (j : Json) : Option Program := do
  let fs ← record? ["declarations"] j
  return ⟨← field? fs "declarations" (list? Declaration.ofJson?)⟩

end EdgeCache
