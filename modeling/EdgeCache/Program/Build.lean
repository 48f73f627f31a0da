import EdgeCache.Program.Tree

/-!
Building programs without places.
-/

namespace EdgeCache

namespace Expression

def ofIdent (name : String) : Expression := .ident .unknown name
def ofIp (text : String) : Expression := .ip .unknown text
def ofString (text : String) : Expression := .string .unknown text
def ofInteger (n : Int64) : Expression := .integer .unknown n
def ofFloat (x : Float) : Expression := .float .unknown x
def ofBool (b : Bool) : Expression := .boolean .unknown b
def ofRTime (text : String) : Expression := .rtime .unknown text
def apply (op : PrefixOp) (e : Expression) : Expression := .prefixed .unknown op e
def inGroup (e : Expression) : Expression := .group .unknown e
def combine (l : Expression) (op : InfixOp) (r : Expression) : Expression := .binary .unknown l op r
def choose (c a b : Expression) : Expression := .conditional .unknown c a b
def invoke (function : String) (es : List Expression) : Expression := .call .unknown function es

end Expression

namespace Statement

def setWith (target : String) (op : AssignOp) (e : Expression) : Statement :=
  .set .unknown target op e
def setTo (target : String) (e : Expression) : Statement := setWith target .assign e
def remove (target : String) : Statement := .unset .unknown target
def append (target : String) (e : Expression) : Statement := .add .unknown target e
def declareAs (name : String) (k : Kind) : Statement := .declare .unknown name k
def callTo (subroutine : String) : Statement := .call .unknown subroutine
def when (c : Expression) (body : List Statement) : Statement := .branch .unknown c body [] none
def returnValue (e : Expression) : Statement := .ret .unknown (some e)
def returnState (state : String) : Statement := returnValue (.ofIdent state)
def errorWith (code : Int64) (text : String) : Statement :=
  .error .unknown (some (.ofInteger code)) (some (.ofString text))
def logOf (e : Expression) : Statement := .log .unknown e
def goTo (label : String) : Statement := .goto .unknown label
def labelled (name : String) : Statement := .label .unknown name
def invoke (function : String) (es : List Expression) : Statement := .apply .unknown function es
def body (e : Expression) : Statement := .synthetic .unknown e false

end Statement

def Property.of (key : String) (e : Expression) : Property := ⟨.unknown, key, e⟩

end EdgeCache
