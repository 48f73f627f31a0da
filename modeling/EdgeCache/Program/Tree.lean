import EdgeCache.Program.Kind

/-!
Programs as trees: declarations, statements and expressions, each with its place in the text.
-/

namespace EdgeCache

structure Token where
  file : String
  line : Nat
  column : Nat
  deriving Repr, DecidableEq, Inhabited

namespace Token

def unknown : Token := ⟨"", 0, 0⟩

def text (t : Token) : String :=
  if t.file.isEmpty then s!"{t.line}:{t.column}" else s!"{t.file}:{t.line}:{t.column}"

end Token

inductive Expression where
  | ident (token : Token) (name : String)
  | ip (token : Token) (text : String)
  | string (token : Token) (text : String)
  | integer (token : Token) (value : Int64)
  | float (token : Token) (value : Float)
  | boolean (token : Token) (value : Bool)
  | rtime (token : Token) (text : String)
  | prefixed (token : Token) (operator : PrefixOp) (right : Expression)
  | group (token : Token) (inner : Expression)
  | binary (token : Token) (left : Expression) (operator : InfixOp) (right : Expression)
  | conditional (token : Token) (condition consequence alternative : Expression)
  | call (token : Token) (function : String) (arguments : List Expression)
  deriving Inhabited

namespace Expression

def token : Expression → Token
  | ident t _ | ip t _ | string t _ | integer t _ | float t _ | boolean t _ | rtime t _
  | prefixed t _ _ | group t _ | binary t _ _ _ | conditional t _ _ _ | call t _ _ => t

def place (t : Token) : Expression → Expression
  | ident _ n => ident t n
  | ip _ s => ip t s
  | string _ s => string t s
  | integer _ n => integer t n
  | float _ x => float t x
  | boolean _ b => boolean t b
  | rtime _ s => rtime t s
  | prefixed _ o e => prefixed t o e
  | group _ e => group t e
  | binary _ l o r => binary t l o r
  | conditional _ c a b => conditional t c a b
  | call _ f es => call t f es

end Expression

inductive CaseTest where
  | equal (text : String)
  | regex (pattern : String)
  deriving Repr, DecidableEq

mutual

inductive Statement where
  | block (token : Token) (body : List Statement)
  | declare (token : Token) (name : String) (kind : Kind)
  | set (token : Token) (target : String) (operator : AssignOp) (value : Expression)
  | unset (token : Token) (target : String)
  | add (token : Token) (target : String) (value : Expression)
  | call (token : Token) (subroutine : String)
  | branch (token : Token) (condition : Expression) (consequence : List Statement)
      (alternatives : List ElseIf) (alternative : Option (List Statement))
  | switch (token : Token) (control : Expression) (cases : List Case) (default : Option Nat)
  | restart (token : Token)
  | esi (token : Token)
  | log (token : Token) (value : Expression)
  | synthetic (token : Token) (value : Expression) (base64 : Bool)
  | ret (token : Token) (value : Option Expression)
  | error (token : Token) (code response : Option Expression)
  | goto (token : Token) (destination : String)
  | label (token : Token) (name : String)
  | apply (token : Token) (function : String) (arguments : List Expression)
  | leave (token : Token)

inductive ElseIf where
  | mk (condition : Expression) (consequence : List Statement)

inductive Case where
  | mk (token : Token) (test : Option CaseTest) (body : List Statement) (fallthrough : Bool)

end

instance : Inhabited Statement := ⟨.restart .unknown⟩

namespace Statement

def token : Statement → Token
  | block t _ | declare t _ _ | set t _ _ _ | unset t _ | add t _ _ | call t _ | branch t _ _ _ _
  | switch t _ _ _ | restart t | esi t | log t _ | synthetic t _ _ | ret t _ | error t _ _
    | goto t _
  | label t _ | apply t _ _ | leave t => t

def place (t : Token) : Statement → Statement
  | block _ b => block t b
  | declare _ n k => declare t n k
  | set _ n o e => set t n o e
  | unset _ n => unset t n
  | add _ n e => add t n e
  | call _ s => call t s
  | branch _ c a b d => branch t c a b d
  | switch _ c cs d => switch t c cs d
  | restart _ => restart t
  | esi _ => esi t
  | log _ e => log t e
  | synthetic _ e b => synthetic t e b
  | ret _ e => ret t e
  | error _ c r => error t c r
  | goto _ d => goto t d
  | label _ n => label t n
  | apply _ f es => apply t f es
  | leave _ => leave t

end Statement

namespace Case

def token : Case → Token
  | mk t _ _ _ => t

def test : Case → Option CaseTest
  | mk _ t _ _ => t

def body : Case → List Statement
  | mk _ _ b _ => b

def fallthrough : Case → Bool
  | mk _ _ _ f => f

end Case

structure AclEntry where
  negated : Bool
  ip : String
  mask : Option Nat
  deriving Repr, DecidableEq

structure AclDeclaration where
  token : Token
  name : String
  entries : List AclEntry
  deriving Repr, DecidableEq

structure Property where
  token : Token
  key : String
  value : Expression

structure BackendDeclaration where
  token : Token
  name : String
  properties : List Property

inductive DirectorProperty where
  | field (property : Property)
  | backend (token : Token) (fields : List Property)

structure DirectorDeclaration where
  token : Token
  name : String
  policy : String
  properties : List DirectorProperty

structure TableEntry where
  key : String
  value : Expression

structure TableDeclaration where
  token : Token
  name : String
  kind : Option Kind
  entries : List TableEntry

def TableDeclaration.valueKind (t : TableDeclaration) : Kind := t.kind.getD .string

structure SubroutineDeclaration where
  token : Token
  name : String
  returns : Option Kind
  body : List Statement

structure NamedDeclaration where
  token : Token
  name : String
  deriving Repr, DecidableEq

inductive Declaration where
  | acl (d : AclDeclaration)
  | backend (d : BackendDeclaration)
  | director (d : DirectorDeclaration)
  | table (d : TableDeclaration)
  | subroutine (d : SubroutineDeclaration)
  | penaltybox (d : NamedDeclaration)
  | ratecounter (d : NamedDeclaration)

structure Program where
  declarations : List Declaration

def Program.empty : Program := ⟨[]⟩

end EdgeCache
