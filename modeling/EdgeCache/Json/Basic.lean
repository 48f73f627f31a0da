import EdgeCache.Number.Binary64

/-!
Values of the data format JSON, and what a decoder asks of them: the fields of a record, and the tag
and content of a variant. Integers and other numbers are kept apart; objects keep their fields in
order, also repeated ones.
-/

namespace EdgeCache

inductive Json where
  | null
  | bool (b : Bool)
  | int (n : Int)
  | float (x : Float)
  | string (s : String)
  | array (items : List Json)
  | object (fields : List (String × Json))
  deriving Inhabited

namespace Json

def get? (j : Json) (name : String) : Option Json :=
  match j with
  | .object fields => fields.reverse.lookup name
  | _ => none

def text? : Json → Option String
  | .string s => some s
  | _ => none

def bool? : Json → Option Bool
  | .bool b => some b
  | _ => none

def items? : Json → Option (List Json)
  | .array xs => some xs
  | _ => none

def intWithin? (lo hi : Int) : Json → Option Int
  | .int n => if lo ≤ n ∧ n ≤ hi then some n else none
  | _ => none

def nat? (limit : Nat) (j : Json) : Option Nat := (j.intWithin? 0 limit).map Int.toNat

def int64? (j : Json) : Option Int64 := (j.intWithin? Word.least Word.greatest).map Int64.ofInt

def float? : Json → Option Float
  | .float x => some x
  | .int n => some (Float.ofInt n)
  | _ => none

def isNull : Json → Bool
  | .null => true
  | _ => false

def hasRepeats : List String → Bool
  | [] => false
  | n :: ns => ns.contains n || hasRepeats ns

/-- The fields of a record: of an object, where unknown fields are skipped and known ones may stand
once, or of an array that holds the first ones in order. -/
def record? (names : List String) : Json → Option (List (String × Json))
  | .object fields =>
    let known := fields.filter fun f => names.contains f.1
    if hasRepeats (known.map (·.1)) then none else some known
  | .array items => if items.length ≤ names.length then some (names.zip items) else none
  | _ => none

def field? {α : Type} (fields : List (String × Json)) (name : String) (decode : Json → Option α) :
    Option α :=
  (fields.lookup name).bind decode

def fieldOr? {α : Type} (fields : List (String × Json)) (name : String) (default : α)
    (decode : Json → Option α) : Option α :=
  match fields.lookup name with
  | some j => decode j
  | none => some default

def optional? {α : Type} (fields : List (String × Json)) (name : String)
    (decode : Json → Option α) :
    Option (Option α) :=
  match fields.lookup name with
  | none => some none
  | some .null => some none
  | some j => (decode j).map some

def variant? (j : Json) : Option (String × Option Json) := do
  let fields ← record? ["type", "value"] j
  match j with
  | .array items => if items.length ≠ 2 then none
  | _ => pure ()
  let tag ← field? fields "type" text?
  return (tag, fields.lookup "value")

/-- The name of a variant without content: a string, or an object with that name as its only field
and nothing in it. -/
def enumName? : Json → Option String
  | .string s => some s
  | .object [(name, .null)] => some name
  | _ => none

def list? {α : Type} (decode : Json → Option α) (j : Json) : Option (List α) :=
  j.items?.bind fun items => items.mapM decode

def variant (tag : String) (content : Json) : Json :=
  .object [("type", .string tag), ("value", content)]

def ofFloat (x : Float) : Json := if Binary64.isFinite x then .float x else .null

def ofOption {α : Type} (encode : α → Json) : Option α → Json
  | none => .null
  | some a => encode a

mutual

def depth : Json → Nat
  | .array items => depthList items + 1
  | .object fields => depthFields fields + 1
  | _ => 0

def depthList : List Json → Nat
  | [] => 0
  | j :: js => max (depth j) (depthList js)

def depthFields : List (String × Json) → Nat
  | [] => 0
  | (_, j) :: fs => max (depth j) (depthFields fs)

end

end Json

end EdgeCache
