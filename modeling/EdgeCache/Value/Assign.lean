import EdgeCache.Value.Basic

/-!
Assignment. The slot keeps its type: what is assigned is turned into it, or refused, and then the
slot stays as it was.
-/

namespace EdgeCache.Value

def rotateLeft (a b : Int64) : Int64 := Int64.ofBitVec (a.toBitVec.rotateLeft (b.toInt % 64).toNat)

def rotateRight (a b : Int64) : Int64 :=
  Int64.ofBitVec (a.toBitVec.rotateRight (b.toInt % 64).toNat)

def assignInteger (op : AssignOp) (a b : Int64) : Except ValueError Int64 :=
  match op with
  | .assign => .ok b
  | .addition => .ok (a + b)
  | .subtraction => .ok (a - b)
  | .multiplication => .ok (a * b)
  | .division => if b = 0 then .error .divisionByZero else .ok (a / b)
  | .remainder => if b = 0 then .error .divisionByZero else .ok (a % b)
  | .bitwiseOr => .ok (a ||| b)
  | .bitwiseAnd => .ok (a &&& b)
  | .bitwiseXor => .ok (a ^^^ b)
  | .leftShift => .ok (a <<< b)
  | .rightShift => .ok (a >>> b)
  | .leftRotate => .ok (rotateLeft a b)
  | .rightRotate => .ok (rotateRight a b)
  | .logicalAnd | .logicalOr => .error (.unsupportedOperator op.sign .integer)

def assignFloat (op : AssignOp) (x y : Float) : Except ValueError Float :=
  match op with
  | .assign => .ok y
  | .addition => .ok (x + y)
  | .subtraction => .ok (x - y)
  | .multiplication => .ok (x * y)
  | .division => .ok (x / y)
  | .remainder => .ok (Binary64.remainder x y)
  | _ => .error (.unsupportedOperator op.sign .float)

def assignBool (op : AssignOp) (a b : Bool) : Except ValueError Bool :=
  match op with
  | .assign => .ok b
  | .logicalAnd => .ok (a && b)
  | .logicalOr => .ok (a || b)
  | _ => .error (.unsupportedOperator op.sign .bool)

def toInteger? : Value → Option Int64
  | integer n _ => some n
  | float x _ => some (Binary64.toInt64 x)
  | rtime d _ => some (Int64.ofInt d.seconds)
  | _ => none

def toFloat? : Value → Option Float
  | integer n _ => some n.toFloat
  | float x _ => some x
  | rtime d _ => some d.toSeconds
  | _ => none

def toFactor? : Value → Option Float
  | integer n _ => some (Float.ofInt n.toInt)
  | float x _ => some x
  | _ => none

/-- A duration, or a number of seconds; whole seconds that do not fit are none. -/
def toDuration? : Value → Option Duration
  | rtime d _ => some d
  | integer n _ => Duration.ofSeconds? n.toInt
  | float x _ => some (Duration.ofFloatSeconds x)
  | _ => none

def scaled (op : AssignOp) (d : Duration) (factor : Float) : Except ValueError Duration :=
  let millis := Float.ofInt d.millis
  let store (x : Float) : Except ValueError Duration :=
    match Duration.ofMillis? (Duration.roundMillis x) with
    | some d => .ok d
    | none => .error (.unsupportedOperator op.sign .rtime)
  match op with
  | .multiplication => store (millis * factor)
  | .division => if factor == 0.0 then .error .divisionByZero else store (millis / factor)
  | _ =>
    if factor == 0.0 then .error .divisionByZero
    else store (Binary64.remainder millis (factor * 1000.0))

def assignDuration (op : AssignOp) (d : Duration) (right : Value) : Except ValueError Duration :=
  let mismatch : ValueError := .typeMismatch op.sign .rtime right.kind
  let orOverflow : Option Duration → Except ValueError Duration
    | some d => .ok d
    | none => .error (.unsupportedOperator op.sign .rtime)
  match op with
  | .assign | .addition | .subtraction =>
    match right.toDuration? with
    | none => .error mismatch
    | some e =>
      match op with
      | .addition => orOverflow (d.add? e)
      | .subtraction => orOverflow (d.sub? e)
      | _ => .ok e
  | .multiplication | .division | .remainder =>
    match right.toFactor? with
    | none => .error mismatch
    | some factor => scaled op d factor
  | _ => .error (.unsupportedOperator op.sign .rtime)

def assignInstant (op : AssignOp) (t : Instant) (right : Value) : Except ValueError Instant :=
  let unsupported : ValueError := .unsupportedOperator op.sign .time
  let move (d : Duration) : Except ValueError Instant :=
    let moved := match op with
      | .addition => t.add? d
      | .subtraction => t.sub? d
      | _ => none
    match moved with
    | some t => .ok t
    | none => .error unsupported
  match op, right with
  | .assign, time u _ => .ok u
  | _, rtime d _ => move d
  | _, integer n _ =>
    match Duration.ofSeconds? n.toInt with
    | some d => move d
    | none => .error unsupported
  | _, float x _ => move (Duration.ofFloatSeconds x)
  | _, _ => .error (.typeMismatch op.sign .time right.kind)

/-- The text with its mark: what is assigned may be unset, what is appended never leaves the slot
so. -/
def assignString (op : AssignOp) (s : String) (right : Value) : Except ValueError (String × Bool) :=
  match right with
  | acl _ | table _ | null => .error (.typeMismatch op.sign .string right.kind)
  | _ =>
    match op with
    | .assign => .ok (right.text, right.isUnset)
    | .addition => .ok (s ++ right.text, false)
    | _ => .error (.unsupportedOperator op.sign .string)

def assignAddress (op : AssignOp) (right : Value) : Except ValueError Address :=
  if op ≠ .assign then .error (.unsupportedOperator op.sign .ip)
  else
    match right with
    | ip a _ => .ok a
    | string s _ =>
      match Address.read? s with
      | some a => .ok a
      | none => .error (.invalidIp s)
    | _ => .error (.typeMismatch op.sign .ip right.kind)

def assignBackend (op : AssignOp) (right : Value) : Except ValueError Backend :=
  if op ≠ .assign then .error (.unsupportedOperator op.sign .backend)
  else
    match right with
    | backend b => .ok b
    | _ => .error (.typeMismatch op.sign .backend right.kind)

def convert {α : Type} (op : AssignOp) (slot : Kind) (right : Value) (f : Value → Option α) :
    Except ValueError α :=
  match f right with
  | some a => .ok a
  | none => .error (.typeMismatch op.sign slot right.kind)

def assign (slot : Value) (op : AssignOp) (right : Value) : Except ValueError Value := do
  match slot with
  | integer a m =>
    let b ← convert op .integer right toInteger?
    return integer (← assignInteger op a b) { m with notSet := false }
  | float x m =>
    let y ← convert op .float right toFloat?
    return float (← assignFloat op x y) { m with notSet := false }
  | string s m =>
    let (s, notSet) ← assignString op s right
    return string s { m with notSet := notSet }
  | bool a m =>
    let b ← convert op .bool right bool?
    return bool (← assignBool op a b) { m with notSet := false }
  | rtime d m => return rtime (← assignDuration op d right) { m with notSet := false }
  | time t _ => return time (← assignInstant op t right) false
  | ip _ l => return ip (← assignAddress op right) l
  | backend _ => return backend (← assignBackend op right)
  | acl _ | table _ | ident _ | null => .error (.unsupportedOperator op.sign slot.kind)

theorem kind_of_assign {slot right v : Value} {op : AssignOp} (h : slot.assign op right = .ok v) :
    v.kind = slot.kind := by
  cases slot <;> simp only [assign, bind, Except.bind, pure, Except.pure] at h <;>
    (try split at h) <;> (try split at h) <;> simp_all [kind] <;> subst h <;> rfl

end EdgeCache.Value
