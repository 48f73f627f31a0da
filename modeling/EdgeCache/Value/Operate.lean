import EdgeCache.Pattern.Search
import EdgeCache.Value.Basic

/-!
Operators between two values. A match of a pattern is remembered: its groups take the place of those
of the match before, and a search that fails leaves them alone.
-/

namespace EdgeCache

structure Captures where
  groups : List String
  deriving DecidableEq

def Captures.none : Captures := ⟨[]⟩

instance : Inhabited Captures := ⟨.none⟩

namespace Value

def equal? : Value → Value → Except ValueError Bool
  | integer a _, integer b _ => .ok (a == b)
  | integer a _, float y _ => .ok (a.toFloat == y)
  | float x _, integer b _ => .ok (x == b.toFloat)
  | float x _, float y _ => .ok (x == y)
  | string a m, string b n => .ok (if m.notSet || n.notSet then m.notSet == n.notSet else a == b)
  | bool a _, bool b _ => .ok (a == b)
  | rtime a _, rtime b _ => .ok (a == b)
  | time a _, time b _ => .ok (a == b)
  | ip a _, ip b _ => .ok (a == b)
  | ip a l, string s m =>
    if m.literal then
      match Address.read? s with
      | some b => .ok (a == b)
      | none => .error (.invalidIp s)
    else .error (.typeMismatch InfixOp.equal.sign (ip a l).kind .string)
  | backend a, backend b => .ok (a.name == b.name)
  | l, r => .error (.typeMismatch InfixOp.equal.sign l.kind r.kind)

def orderFloat? (x y : Float) : Option Ordering :=
  if x < y then some .lt else if y < x then some .gt else if x == y then some .eq else none

def orderInstant (a b : Instant) : Ordering :=
  if a.lt b then .lt else if b.lt a then .gt else .eq

def order? (op : InfixOp) : Value → Value → Except ValueError (Option Ordering)
  | integer a _, integer b _ => .ok (some (compare a.toInt b.toInt))
  | integer a _, float y _ => .ok (orderFloat? a.toFloat y)
  | float x _, integer b _ => .ok (orderFloat? x b.toFloat)
  | float x _, float y _ => .ok (orderFloat? x y)
  | rtime a _, rtime b _ => .ok (some (compare a.millis b.millis))
  | time a _, time b _ => .ok (some (orderInstant a b))
  | l, r => .error (.typeMismatch op.sign l.kind r.kind)

def search (pattern subject : String) (captures : Captures) : Except ValueError (Bool × Captures) :=
  match Pattern.ofText pattern with
  | .error e => .error (.invalidPattern pattern e)
  | .ok p =>
    match p.captures? subject with
    | some groups => .ok (true, ⟨groups⟩)
    | none => .ok (false, captures)

/-- The pattern and the text of a search. Only a literal is taken for a pattern. -/
def sought? : Value → Value → Option (String × String)
  | string s _, string p m => if m.literal then some (p, s) else none
  | _, _ => none

def matches? (op : InfixOp) (l r : Value) (captures : Captures) :
    Except ValueError (Bool × Captures) :=
  match l.sought? r with
  | some (pattern, subject) => search pattern subject captures
  | none =>
    match l, r with
    | ip a _, acl list => .ok (list.matches? a, captures)
    | string .., string .. => .error (.nonLiteralPattern op.sign)
    | _, _ => .error (.typeMismatch op.sign l.kind r.kind)

def isJoinable (v : Value) : Bool :=
  match v.kind with
  | .acl | .table | .ident | .null => false
  | _ => true

def concat (l r : Value) : Except ValueError Value :=
  if l.isJoinable && r.isJoinable then .ok (ofString (l.text ++ r.text))
  else .error (.typeMismatch InfixOp.plus.sign l.kind r.kind)

def logical (op : InfixOp) (f : Bool → Bool → Bool) : Value → Value → Except ValueError Bool
  | bool a _, bool b _ => .ok (f a b)
  | l, r => .error (.typeMismatch op.sign l.kind r.kind)

/-- The value of an operator, with the groups to remember. Both operands are taken. -/
def operate (op : InfixOp) (l r : Value) (captures : Captures) :
    Except ValueError (Value × Captures) := do
  let plain (b : Bool) : Value × Captures := (ofBool b, captures)
  match op with
  | .equal => return plain (← l.equal? r)
  | .notEqual => return plain (!(← l.equal? r))
  | .greater => return plain ((← l.order? op r) == some .gt)
  | .less => return plain ((← l.order? op r) == some .lt)
  | .greaterEqual =>
    let o ← l.order? op r
    return plain (o == some .gt || o == some .eq)
  | .lessEqual =>
    let o ← l.order? op r
    return plain (o == some .lt || o == some .eq)
  | .regex =>
    let (b, captures) ← l.matches? op r captures
    return (ofBool b, captures)
  | .notRegex =>
    let (b, captures) ← l.matches? op r captures
    return (ofBool (!b), captures)
  | .plus => return (← l.concat r, captures)
  | .and => return plain (← logical op and l r)
  | .or => return plain (← logical op or l r)

end Value

end EdgeCache
