/-!
The types of values and the operators of the language, with their names.
-/

namespace EdgeCache

inductive Kind where
  | integer
  | float
  | string
  | bool
  | rtime
  | time
  | ip
  | acl
  | backend
  | table
  | ident
  | null
  deriving Repr, DecidableEq, Inhabited

namespace Kind

def all : List Kind :=
  [integer, float, string, bool, rtime, time, ip, acl, backend, table, ident, null]

def text : Kind → String
  | integer => "INTEGER"
  | float => "FLOAT"
  | string => "STRING"
  | bool => "BOOL"
  | rtime => "RTIME"
  | time => "TIME"
  | ip => "IP"
  | acl => "ACL"
  | backend => "BACKEND"
  | table => "TABLE"
  | ident => "ID"
  | null => "NULL"

def ofText? (s : String) : Option Kind := all.find? fun k => k.text == s

/-- Types whose values begin with a zero; the others begin as null. -/
def hasZero : Kind → Bool
  | integer | float | string | bool | rtime | time => true
  | _ => false

end Kind

inductive PrefixOp where
  | not
  | minus
  | plus
  deriving Repr, DecidableEq

namespace PrefixOp

def all : List PrefixOp := [not, minus, plus]

def name : PrefixOp → String
  | not => "Not"
  | minus => "Minus"
  | plus => "Plus"

def sign : PrefixOp → String
  | not => "!"
  | minus => "-"
  | plus => "+"

def ofName? (s : String) : Option PrefixOp := all.find? fun o => o.name == s

end PrefixOp

inductive InfixOp where
  | equal
  | notEqual
  | greater
  | less
  | greaterEqual
  | lessEqual
  | regex
  | notRegex
  | plus
  | and
  | or
  deriving Repr, DecidableEq

namespace InfixOp

def all : List InfixOp :=
  [equal, notEqual, greater, less, greaterEqual, lessEqual, regex, notRegex, plus, and, or]

def name : InfixOp → String
  | equal => "Equal"
  | notEqual => "NotEqual"
  | greater => "GreaterThan"
  | less => "LessThan"
  | greaterEqual => "GreaterThanEqual"
  | lessEqual => "LessThanEqual"
  | regex => "Regex"
  | notRegex => "NotRegex"
  | plus => "Plus"
  | and => "And"
  | or => "Or"

def sign : InfixOp → String
  | equal => "=="
  | notEqual => "!="
  | greater => ">"
  | less => "<"
  | greaterEqual => ">="
  | lessEqual => "<="
  | regex => "~"
  | notRegex => "!~"
  | plus => "+"
  | and => "&&"
  | or => "||"

def ofName? (s : String) : Option InfixOp := all.find? fun o => o.name == s

end InfixOp

inductive AssignOp where
  | assign
  | addition
  | subtraction
  | multiplication
  | division
  | remainder
  | bitwiseOr
  | bitwiseAnd
  | bitwiseXor
  | leftShift
  | rightShift
  | leftRotate
  | rightRotate
  | logicalAnd
  | logicalOr
  deriving Repr, DecidableEq

namespace AssignOp

def all : List AssignOp :=
  [assign, addition, subtraction, multiplication, division, remainder, bitwiseOr, bitwiseAnd,
    bitwiseXor, leftShift, rightShift, leftRotate, rightRotate, logicalAnd, logicalOr]

def name : AssignOp → String
  | assign => "Assign"
  | addition => "Addition"
  | subtraction => "Subtraction"
  | multiplication => "Multiplication"
  | division => "Division"
  | remainder => "Remainder"
  | bitwiseOr => "BitwiseOr"
  | bitwiseAnd => "BitwiseAnd"
  | bitwiseXor => "BitwiseXor"
  | leftShift => "LeftShift"
  | rightShift => "RightShift"
  | leftRotate => "LeftRotate"
  | rightRotate => "RightRotate"
  | logicalAnd => "LogicalAnd"
  | logicalOr => "LogicalOr"

def sign : AssignOp → String
  | assign => "="
  | addition => "+="
  | subtraction => "-="
  | multiplication => "*="
  | division => "/="
  | remainder => "%="
  | bitwiseOr => "|="
  | bitwiseAnd => "&="
  | bitwiseXor => "^="
  | leftShift => "<<="
  | rightShift => ">>="
  | leftRotate => "rol="
  | rightRotate => "ror="
  | logicalAnd => "&&="
  | logicalOr => "||="

def ofName? (s : String) : Option AssignOp := all.find? fun o => o.name == s

end AssignOp

end EdgeCache
