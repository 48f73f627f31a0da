import EdgeCache.Program.Kind
import EdgeCache.Text.Quoted

/-!
What can go wrong with values.
-/

namespace EdgeCache

inductive PatternError where
  | malformed (reason : String)
  | tooLarge (limit : Nat)
  deriving Repr, DecidableEq

def PatternError.message : PatternError → String
  | .malformed reason => "regex parse error: " ++ reason
  | .tooLarge limit => s!"Compiled regex exceeds size limit of {limit} bytes."

inductive ValueError where
  | typeMismatch (operator : String) (left right : Kind)
  | unsupportedOperator (operator : String) (kind : Kind)
  | divisionByZero
  | nonLiteralPattern (operator : String)
  | invalidPattern (pattern : String) (reason : PatternError)
  | invalidRTime (text : String)
  | invalidIp (text : String)
  | invalidAcl (entry reason : String)
  | invalidHeader (text : String)
  deriving Repr, DecidableEq

namespace ValueError

def message : ValueError → String
  | typeMismatch op l r => s!"type mismatch: {l.text} {op} {r.text} is not defined"
  | unsupportedOperator op k => s!"operator {op} is not defined for {k.text}"
  | divisionByZero => "division by zero"
  | nonLiteralPattern op => s!"right operand of {op} must be a string literal"
  | invalidPattern p reason => s!"invalid regular expression {Quoted.quote p}: {reason.message}"
  | invalidRTime s => s!"invalid relative time {Quoted.quote s}"
  | invalidIp s => s!"invalid IP address {Quoted.quote s}"
  | invalidAcl e reason => s!"invalid ACL entry {Quoted.quote e}: {reason}"
  | invalidHeader s => s!"invalid header {Quoted.quote s}"

def name : ValueError → String
  | typeMismatch .. => "TypeMismatch"
  | unsupportedOperator .. => "UnsupportedOperator"
  | divisionByZero => "DivisionByZero"
  | nonLiteralPattern .. => "NonLiteralPattern"
  | invalidPattern .. => "InvalidPattern"
  | invalidRTime .. => "InvalidRTime"
  | invalidIp .. => "InvalidIp"
  | invalidAcl .. => "InvalidAcl"
  | invalidHeader .. => "InvalidHeader"

end ValueError

end EdgeCache
