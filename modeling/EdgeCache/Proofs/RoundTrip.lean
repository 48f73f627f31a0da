import EdgeCache.Program.Decode
import EdgeCache.Program.Encode

/-! Programs as JSON and back. All that can be lost on the way are numbers: the data format has no
text for a float that is not finite, and a decoder takes places, indices and masks within the bounds
of a machine only. With all its numbers within them a program is read back as it was, and any other
one is not read at all. -/

namespace EdgeCache

open Json (record? field? fieldOr? optional? variant? list? ofOption variant ofFloat)

/-- A number in a program: a line, a column or an index, the length of a mask, or the value of a
literal. -/
inductive Number where
  | size (n : Nat)
  | octet (n : Nat)
  | float (x : Float)

def Number.fits : Number → Bool
  | size n => n ≤ sizeLimit
  | octet n => n ≤ 255
  | float x => Binary64.isFinite x

def Token.numbers (t : Token) : List Number := [.size t.line, .size t.column]

mutual

def Expression.numbers : Expression → List Number
  | .ident t _ | .ip t _ | .string t _ | .integer t _ | .boolean t _ | .rtime t _ => t.numbers
  | .float t x => t.numbers ++ [.float x]
  | .prefixed t _ e | .group t e => t.numbers ++ e.numbers
  | .binary t l _ r => t.numbers ++ (l.numbers ++ r.numbers)
  | .conditional t c a b => t.numbers ++ (c.numbers ++ (a.numbers ++ b.numbers))
  | .call t _ es => t.numbers ++ expressionNumbers es

def expressionNumbers : List Expression → List Number
  | [] => []
  | e :: es => e.numbers ++ expressionNumbers es

end

mutual

def Statement.numbers : Statement → List Number
  | .declare t _ _ | .unset t _ | .call t _ | .restart t | .esi t | .goto t _ | .label t _
    | .leave t => t.numbers
  | .block t b => t.numbers ++ statementNumbers b
  | .set t _ _ e | .add t _ e | .log t e | .synthetic t e _ => t.numbers ++ e.numbers
  | .branch t c a others last =>
    t.numbers ++ (c.numbers ++ (statementNumbers a ++ (elseIfNumbers others ++
      match last with
      | none => []
      | some b => statementNumbers b)))
  | .switch t c cases d =>
    t.numbers ++ (c.numbers ++ (caseNumbers cases ++ d.elim [] fun n => [.size n]))
  | .ret t e => t.numbers ++ e.elim [] Expression.numbers
  | .error t c r => t.numbers ++ (c.elim [] Expression.numbers ++ r.elim [] Expression.numbers)
  | .apply t _ es => t.numbers ++ expressionNumbers es

def statementNumbers : List Statement → List Number
  | [] => []
  | s :: ss => s.numbers ++ statementNumbers ss

def elseIfNumbers : List ElseIf → List Number
  | [] => []
  | .mk c b :: es => (c.numbers ++ statementNumbers b) ++ elseIfNumbers es

def caseNumbers : List Case → List Number
  | [] => []
  | .mk t _ b _ :: cs => (t.numbers ++ statementNumbers b) ++ caseNumbers cs

end

def ElseIf.numbers : ElseIf → List Number
  | .mk c b => c.numbers ++ statementNumbers b

def ElseIf.toJson : ElseIf → Json
  | .mk c b => .object [("condition", c.toJson), ("consequence", .array (statementsJson b))]

def Case.numbers : Case → List Number
  | .mk t _ b _ => t.numbers ++ statementNumbers b

def Case.toJson : Case → Json
  | .mk t test b f =>
    .object [("token", t.toJson), ("test", ofOption CaseTest.toJson test),
      ("statements", .array (statementsJson b)), ("fallthrough", .bool f)]

def Property.numbers (p : Property) : List Number := p.token.numbers ++ p.value.numbers

def AclEntry.numbers (e : AclEntry) : List Number := e.mask.elim [] fun n => [.octet n]

def DirectorProperty.numbers : DirectorProperty → List Number
  | .field p => p.numbers
  | .backend t fields => t.numbers ++ fields.flatMap Property.numbers

def Declaration.numbers : Declaration → List Number
  | .acl d => d.token.numbers ++ d.entries.flatMap AclEntry.numbers
  | .backend d => d.token.numbers ++ d.properties.flatMap Property.numbers
  | .director d => d.token.numbers ++ d.properties.flatMap DirectorProperty.numbers
  | .table d => d.token.numbers ++ d.entries.flatMap fun e => e.value.numbers
  | .subroutine d => d.token.numbers ++ statementNumbers d.body
  | .penaltybox d | .ratecounter d => d.token.numbers

def Program.numbers (p : Program) : List Number := p.declarations.flatMap Declaration.numbers

theorem Json.nat?_int (limit n : Nat) :
    Json.nat? limit (.int n) = if n ≤ limit then some n else none := by
  show Option.map Int.toNat (if 0 ≤ (n : Int) ∧ (n : Int) ≤ limit then some (n : Int) else none) = _
  by_cases h : n ≤ limit
  · rw [if_pos h, if_pos ⟨Int.natCast_nonneg n, Int.ofNat_le.mpr h⟩]
    rfl
  · rw [if_neg h, if_neg fun both => h (Int.ofNat_le.mp both.2)]
    rfl

/-- What is read is `a` if its numbers `ns` fit, and nothing otherwise. -/
def Restores {α : Type} (o : Option α) (ns : List Number) (a : α) : Prop :=
  o = if ns.all Number.fits then some a else none

namespace Restores

variable {α β : Type} {o : Option α} {a : α} {b : β} {ns ms : List Number} {f : α → Option β}
    {dec : Json → Option α}
  {enc : α → Json} {fs : List (String × Json)} {name : String}

theorem bind (first : Restores o ns a) (next : Restores (f a) ms b) :
    Restores (o >>= f) (ns ++ ms) b := by
  unfold Restores at *
  rw [first, List.all_append]
  cases ns.all Number.fits with
  | true => exact next
  | false => rfl

theorem skip (first : o = some a) (next : Restores (f a) ms b) : Restores (o >>= f) ms b := by
  rw [first]
  exact next

theorem last (only : Restores o ns a) (made : f a = some b) : Restores (o >>= f) ns b := by
  unfold Restores at *
  rw [only]
  cases ns.all Number.fits with
  | true => exact made
  | false => rfl

theorem list {numbers : α → List Number} {as : List α}
    (each : ∀ a ∈ as, Restores (dec (enc a)) (numbers a) a) :
    Restores (list? dec (.array (as.map enc))) (as.flatMap numbers) as := by
  show Restores ((as.map enc).mapM dec) _ as
  induction as with
  | nil => rfl
  | cons a as ih =>
    rw [List.map_cons, List.mapM_cons, List.flatMap_cons]
    refine (each a List.mem_cons_self).bind ?_
    exact (ih fun a ha => each a (List.mem_cons_of_mem _ ha)).last rfl

theorem map (g : α → β) (only : Restores o ns a) : Restores (o.map g) ns (g a) := by
  unfold Restores at *
  rw [only]
  cases ns.all Number.fits <;> rfl

theorem optional {numbers : α → List Number} {o : Option α}
    (found : fs.lookup name = some (ofOption enc o)) (filled : ∀ a, enc a ≠ .null)
    (each : ∀ a, Restores (dec (enc a)) (numbers a) a) :
    Restores (optional? fs name dec) (o.elim [] numbers) o := by
  unfold optional?
  rw [found]
  cases o with
  | none => rfl
  | some a =>
    have read : Restores ((dec (enc a)).map some) (numbers a) (some a) := (each a).map some
    have filled := filled a
    have same : ofOption enc (some a) = enc a := rfl
    rw [same]
    generalize enc a = j at read filled ⊢
    cases j with
    | null => exact absurd rfl filled
    | _ => exact read

theorem size (n : Nat) : Restores (Json.nat? sizeLimit (.int n)) [.size n] n := by
  unfold Restores
  rw [Json.nat?_int]
  simp [Number.fits]

theorem octet (n : Nat) : Restores (Json.nat? 255 (.int n)) [.octet n] n := by
  unfold Restores
  rw [Json.nat?_int]
  simp [Number.fits]

theorem float (x : Float) : Restores (Json.float? (ofFloat x)) [.float x] x := by
  unfold Restores ofFloat
  cases h : Binary64.isFinite x <;> simp [Number.fits, h, Json.float?]

theorem token (t : Token) : Restores (Token.ofJson? t.toJson) t.numbers t :=
  .skip rfl (.skip rfl (.bind (size t.line) (.last (size t.column) rfl)))

theorem node {t : Token} {tag : String} {content : Json}
    {f : Token × String × Option Json → Option β}
    (kind : Restores (f (t, tag, some content)) ns b) :
    Restores (node? (nodeJson t tag content) >>= f) (t.numbers ++ ns) b := by
  have read : Restores (node? (nodeJson t tag content)) t.numbers (t, tag, some content) :=
    .skip rfl (.last (token t) rfl)
  exact read.bind kind

theorem bare {t : Token} {tag : String} {f : Token × String × Option Json → Option β}
    (kind : Restores (f (t, tag, none)) ns b) :
    Restores (node? (bareJson t tag) >>= f) (t.numbers ++ ns) b := by
  have read : Restores (node? (bareJson t tag)) t.numbers (t, tag, none) :=
    .skip rfl (.last (token t) rfl)
  exact read.bind kind

end Restores

section Depth

variable {j : Json} {fs : List (String × Json)} {name : String} {n : Nat}

theorem Json.depth_item {items : List Json} (h : j ∈ items) :
    j.depth < (Json.array items).depth := by
  have le : j.depth ≤ depthList items := by
    induction items with
    | nil => cases h
    | cons i items ih =>
      rw [depthList]
      rcases List.mem_cons.mp h with rfl | h
      · exact Nat.le_max_left ..
      · exact Nat.le_trans (ih h) (Nat.le_max_right ..)
  rw [depth]
  omega

theorem Json.depth_field (h : (name, j) ∈ fs) : j.depth < (Json.object fs).depth := by
  have le : j.depth ≤ depthFields fs := by
    induction fs with
    | nil => cases h
    | cons f fs ih =>
      obtain ⟨n, i⟩ := f
      rw [depthFields]
      rcases List.mem_cons.mp h with same | h
      · cases same
        exact Nat.le_max_left ..
      · exact Nat.le_trans (ih h) (Nat.le_max_right ..)
  rw [depth]
  omega

theorem Json.depth_listed {α : Type} {encode : α → Json} {as : List α} {a : α} (ha : a ∈ as)
    (name : String) (h : (name, .array (as.map encode)) ∈ fs) (deep : (Json.object fs).depth < n) :
    (encode a).depth < n := by
  have item : (encode a).depth < (Json.array (as.map encode)).depth :=
    depth_item (List.mem_map_of_mem ha)
  have field := depth_field h
  omega

theorem depth_within (deep : (Json.object fs).depth < n) (name : String) (h : (name, j) ∈ fs) :
    j.depth < n :=
  Nat.lt_trans (Json.depth_field h) deep

theorem depth_content {t : Token} {tag : String} (h : (nodeJson t tag j).depth < n + 1) :
    j.depth < n := by
  simp [nodeJson, Json.variant, Json.depth, Json.depthFields] at h
  omega

end Depth

theorem expressionsJson_eq (es : List Expression) :
    expressionsJson es = es.map Expression.toJson := by
  induction es with
  | nil => rfl
  | cons e es ih => rw [expressionsJson, ih, List.map_cons]

theorem expressionNumbers_eq (es : List Expression) :
    expressionNumbers es = es.flatMap Expression.numbers := by
  induction es with
  | nil => rfl
  | cons e es ih => rw [expressionNumbers, ih, List.flatMap_cons]

theorem Json.int64?_int (n : Int64) : (Json.int n.toInt).int64? = some n := by
  have bounds : Word.least ≤ n.toInt ∧ n.toInt ≤ Word.greatest :=
    ⟨Int64.le_toInt n, Int64.toInt_le n⟩
  show Option.map Int64.ofInt (if Word.least ≤ n.toInt ∧ n.toInt ≤ Word.greatest then
    some n.toInt else none) = some n
  rw [if_pos bounds, Option.map_some, Int64.ofInt_toInt]

theorem PrefixOp.ofJson?_name (o : PrefixOp) : PrefixOp.ofJson? (.string o.name) = some o := by
  cases o <;> rfl

theorem InfixOp.ofJson?_name (o : InfixOp) : InfixOp.ofJson? (.string o.name) = some o := by
  cases o <;> rfl

namespace Expression

theorem decode_toJson (n : Nat) (e : Expression) (deep : e.toJson.depth < n) :
    Restores (decodeExpression n e.toJson) e.numbers e := by
  induction n generalizing e with
  | zero => cases deep
  | succ n ih =>
    have part {fs : List (String × Json)} (deep : (Json.object fs).depth < n) (name : String)
        (e : Expression)
        (h : (name, e.toJson) ∈ fs) := ih e (depth_within deep name h)
    cases e with
    | ident | ip | string | boolean | rtime => exact .node rfl
    | integer t m => exact .node (.skip rfl (.skip (Json.int64?_int m) rfl))
    | float t x => exact .node (.skip rfl (.last (.float x) rfl))
    | prefixed t o r =>
      have right := part (depth_content deep) "right" r (by simp)
      exact .node (.skip rfl (.skip rfl (.skip o.ofJson?_name (.last right rfl))))
    | group t e => exact .node (.skip rfl (.last (ih e (depth_content deep)) rfl))
    | binary t l o r =>
      have left := part (depth_content deep) "left" l (by simp)
      have right := part (depth_content deep) "right" r (by simp)
      exact .node (.skip rfl (.skip rfl (.bind left (.skip o.ofJson?_name (.last right rfl)))))
    | conditional t c a b =>
      have condition := part (depth_content deep) "condition" c (by simp)
      have consequence := part (depth_content deep) "consequence" a (by simp)
      have alternative := part (depth_content deep) "alternative" b (by simp)
      exact .node (.skip rfl
        (.skip rfl (.bind condition (.bind consequence (.last alternative rfl)))))
    | call t f es =>
      have deep := depth_content deep
      rw [expressionsJson_eq] at deep
      have arguments :
          Restores (list? (decodeExpression n) (.array (es.map toJson))) (es.flatMap numbers) es :=
        .list fun e he => ih e (Json.depth_listed he "arguments" (by simp) deep)
      rw [toJson, expressionsJson_eq, numbers, expressionNumbers_eq]
      exact .node (.skip rfl (.skip rfl (.skip rfl (.last arguments rfl))))

end Expression

theorem Expression.restores (e : Expression) : Restores (Expression.ofJson? e.toJson) e.numbers e :=
  Expression.decode_toJson _ e (Nat.lt_succ_self _)

theorem Expression.toJson_ne_null (e : Expression) : e.toJson ≠ .null := by
  cases e <;> nofun

theorem Restores.value {fs : List (String × Json)} {name : String} (o : Option Expression)
    (found : fs.lookup name = some (ofOption Expression.toJson o)) :
    Restores (optional? fs name Expression.ofJson?) (o.elim [] Expression.numbers) o :=
  .optional found Expression.toJson_ne_null Expression.restores

theorem Expression.list_toJson (es : List Expression) :
    Restores (list? Expression.ofJson? (.array (expressionsJson es))) (expressionNumbers es)
      es := by
  rw [expressionsJson_eq, expressionNumbers_eq]
  exact .list fun e _ => e.restores

theorem Kind.ofJson?_toJson (k : Kind) : Kind.ofJson? k.toJson = some k := by
  cases k <;> rfl

theorem AssignOp.ofJson?_name (o : AssignOp) : AssignOp.ofJson? (.string o.name) = some o := by
  cases o <;> rfl

namespace Statement

theorem statementsJson_eq (b : List Statement) : statementsJson b = b.map Statement.toJson := by
  induction b with
  | nil => rfl
  | cons s b ih => rw [statementsJson, ih, List.map_cons]

theorem statementNumbers_eq (b : List Statement) :
    statementNumbers b = b.flatMap Statement.numbers := by
  induction b with
  | nil => rfl
  | cons s b ih => rw [statementNumbers, ih, List.flatMap_cons]

theorem elseIfsJson_eq (es : List ElseIf) : elseIfsJson es = es.map ElseIf.toJson := by
  induction es with
  | nil => rfl
  | cons e es ih =>
    obtain ⟨c, b⟩ := e
    rw [elseIfsJson, ih]
    rfl

theorem elseIfNumbers_eq (es : List ElseIf) : elseIfNumbers es = es.flatMap ElseIf.numbers := by
  induction es with
  | nil => rfl
  | cons e es ih =>
    obtain ⟨c, b⟩ := e
    rw [elseIfNumbers, ih]
    rfl

theorem casesJson_eq (cs : List Case) : casesJson cs = cs.map Case.toJson := by
  induction cs with
  | nil => rfl
  | cons c cs ih =>
    obtain ⟨t, test, b, f⟩ := c
    rw [casesJson, ih]
    rfl

theorem caseNumbers_eq (cs : List Case) : caseNumbers cs = cs.flatMap Case.numbers := by
  induction cs with
  | nil => rfl
  | cons c cs ih =>
    obtain ⟨t, test, b, f⟩ := c
    rw [caseNumbers, ih]
    rfl

def RestoredBelow (n : Nat) : Prop :=
  ∀ s : Statement, s.toJson.depth < n → Restores (decodeStatement n s.toJson) s.numbers s

namespace RestoredBelow

variable {n : Nat}

theorem body (below : RestoredBelow n) (b : List Statement)
    (deep : (Json.array (statementsJson b)).depth < n) :
    Restores (list? (decodeStatement n) (.array (statementsJson b))) (statementNumbers b) b := by
  rw [statementsJson_eq] at deep ⊢
  rw [statementNumbers_eq]
  exact .list fun s hs => below s (Nat.lt_trans (Json.depth_item (List.mem_map_of_mem hs)) deep)

theorem elseIf (below : RestoredBelow n) (e : ElseIf) (deep : e.toJson.depth < n) :
    Restores (decodeElseIf (list? (decodeStatement n)) e.toJson) e.numbers e := by
  obtain ⟨c, b⟩ := e
  have body := below.body b (depth_within deep "consequence" (by simp))
  exact .skip rfl (.bind c.restores (.last body rfl))

theorem elseIfs (below : RestoredBelow n) (es : List ElseIf)
    (deep : (Json.array (elseIfsJson es)).depth < n) :
    Restores (list? (decodeElseIf (list? (decodeStatement n))) (.array (elseIfsJson es)))
      (elseIfNumbers es) es := by
  rw [elseIfsJson_eq] at deep ⊢
  rw [elseIfNumbers_eq]
  exact .list fun e he => below.elseIf e
    (Nat.lt_trans (Json.depth_item (List.mem_map_of_mem he)) deep)

theorem clause (below : RestoredBelow n) (c : Case) (deep : c.toJson.depth < n) :
    Restores (decodeCase (list? (decodeStatement n)) c.toJson) c.numbers c := by
  obtain ⟨t, test, b, f⟩ := c
  have tested : optional? [("token", t.toJson), ("test", ofOption CaseTest.toJson test),
      ("statements", .array (statementsJson b)), ("fallthrough", .bool f)] "test" CaseTest.ofJson? =
        some test := by
    rcases test with _ | ⟨text⟩ | ⟨pattern⟩ <;> rfl
  have body := below.body b (depth_within deep "statements" (by simp))
  exact .skip rfl (.bind (.token t) (.skip tested (.last body rfl)))

theorem clauses (below : RestoredBelow n) (cs : List Case)
    (deep : (Json.array (casesJson cs)).depth < n) :
    Restores (list? (decodeCase (list? (decodeStatement n))) (.array (casesJson cs)))
      (caseNumbers cs) cs := by
  rw [casesJson_eq] at deep ⊢
  rw [caseNumbers_eq]
  exact .list fun c hc => below.clause c
    (Nat.lt_trans (Json.depth_item (List.mem_map_of_mem hc)) deep)

end RestoredBelow

theorem decode_toJson (n : Nat) : RestoredBelow n := by
  -- The decoder goes one level down for each constructor, and what it finds there is nested less
  -- deeply.
  induction n with
  | zero => exact fun _ => nofun
  | succ n below =>
    intro s deep
    have value := Expression.restores
    cases s with
    | restart | esi | leave => exact .bare rfl
    | unset | call | goto | label => exact .node rfl
    | declare t name k => exact .node (.skip rfl (.skip rfl (.skip k.ofJson?_toJson rfl)))
    | set t name o e =>
      exact .node (.skip rfl (.skip rfl (.skip o.ofJson?_name (.last (value e) rfl))))
    | add t name e => exact .node (.skip rfl (.skip rfl (.last (value e) rfl)))
    | log t e | synthetic t e b => exact .node (.skip rfl (.last (value e) rfl))
    | ret t e => exact .node (.skip rfl (.last (.value e rfl) rfl))
    | error t c r => exact .node (.skip rfl (.bind (.value c rfl) (.last (.value r rfl) rfl)))
    | apply t f es =>
      rw [toJson, numbers]
      exact .node (.skip rfl (.skip rfl (.last (Expression.list_toJson es) rfl)))
    | block t b => exact .node (.last (below.body b (depth_content deep)) rfl)
    | branch t c a others last =>
      -- The last body is written as null or as a list, which no encoder of bodies does: the two are
      -- read apart.
      cases last with
      | none =>
        have deep := depth_content deep
        have consequence := below.body a (depth_within deep "consequence" (by simp))
        have alternatives := below.elseIfs others (depth_within deep "alternatives" (by simp))
        exact .node (.skip rfl (.bind (value c) (.bind consequence (.bind alternatives rfl))))
      | some b =>
        have deep := depth_content deep
        have consequence := below.body a (depth_within deep "consequence" (by simp))
        have alternatives := below.elseIfs others (depth_within deep "alternatives" (by simp))
        have alternative := (below.body b (depth_within deep "alternative" (by simp))).map some
        exact .node (.skip rfl
          (.bind (value c) (.bind consequence (.bind alternatives (.last alternative rfl)))))
    | switch t c cs d =>
      have clauses := below.clauses cs (depth_within (depth_content deep) "cases" (by simp))
      have default : Restores (optional? [("control", c.toJson), ("cases", .array (casesJson cs)),
          ("default", ofOption (fun n : Nat => Json.int n) d)] "default" (Json.nat? sizeLimit))
          (d.elim [] fun n => [.size n]) d := .optional rfl nofun .size
      exact .node (.skip rfl (.bind (value c) (.bind clauses (.last default rfl))))

end Statement

theorem Statement.restores (s : Statement) : Restores (Statement.ofJson? s.toJson) s.numbers s :=
  Statement.decode_toJson _ s (Nat.lt_succ_self _)

theorem Property.restores (p : Property) : Restores (Property.ofJson? p.toJson) p.numbers p :=
  .skip rfl (.bind (.token p.token) (.skip rfl (.last (Expression.restores p.value) rfl)))

theorem AclEntry.restores (e : AclEntry) : Restores (AclEntry.ofJson? e.toJson) e.numbers e := by
  have mask : Restores (optional? [("negated", .bool e.negated), ("ip", .string e.ip),
      ("mask", ofOption (fun n : Nat => Json.int n) e.mask)] "mask" (Json.nat? 255)) e.numbers
        e.mask :=
    .optional rfl nofun .octet
  exact .skip rfl (.skip rfl (.skip rfl (.last mask rfl)))

theorem TableEntry.restores (e : TableEntry) :
    Restores (TableEntry.ofJson? e.toJson) e.value.numbers e :=
  .skip rfl (.skip rfl (.last (Expression.restores e.value) rfl))

theorem properties_restored (ps : List Property) :
    Restores (list? Property.ofJson? (.array (ps.map Property.toJson)))
      (ps.flatMap Property.numbers) ps :=
  .list fun p _ => p.restores

theorem DirectorProperty.restores (p : DirectorProperty) :
    Restores (DirectorProperty.ofJson? p.toJson) p.numbers p := by
  cases p with
  | field p => exact .skip rfl (.skip rfl (.last p.restores rfl))
  | backend t fields =>
    exact .skip rfl
      (.skip rfl (.skip rfl (.bind (.token t) (.last (properties_restored fields) rfl))))

theorem NamedDeclaration.restores (d : NamedDeclaration) :
    Restores (NamedDeclaration.ofJson? d.toJson) d.token.numbers d :=
  .skip rfl (.last (.token d.token) rfl)

theorem optional_kind (o : Option Kind) {fs : List (String × Json)} {name : String}
    (found : fs.lookup name = some (ofOption Kind.toJson o)) :
    optional? fs name Kind.ofJson? = some o := by
  have read : Restores (optional? fs name Kind.ofJson?) (o.elim [] fun _ => []) o :=
    .optional found nofun Kind.ofJson?_toJson
  rw [read]
  cases o <;> rfl

theorem Declaration.restores (d : Declaration) :
    Restores (Declaration.ofJson? d.toJson) d.numbers d := by
  cases d with
  | acl d =>
    have entries : Restores (list? AclEntry.ofJson? (.array (d.entries.map AclEntry.toJson)))
        (d.entries.flatMap AclEntry.numbers) d.entries := .list fun e _ => e.restores
    exact .skip rfl
      (.skip rfl (.last (.skip rfl (.bind (.token d.token) (.skip rfl (.last entries rfl)))) rfl))
  | backend d =>
    have properties := properties_restored d.properties
    exact .skip rfl
      (.skip rfl (.last (.skip rfl (.bind (.token d.token) (.skip rfl (.last properties rfl))))
        rfl))
  | director d =>
    have properties :
        Restores (list? DirectorProperty.ofJson?
          (.array (d.properties.map DirectorProperty.toJson)))
        (d.properties.flatMap DirectorProperty.numbers) d.properties := .list fun p _ => p.restores
    exact .skip rfl (.skip rfl (.last (.skip rfl (.bind (.token d.token)
      (.skip rfl (.skip rfl (.last properties rfl))))) rfl))
  | table d =>
    have entries : Restores (list? TableEntry.ofJson? (.array (d.entries.map TableEntry.toJson)))
        (d.entries.flatMap fun e => e.value.numbers) d.entries := .list fun e _ => e.restores
    exact .skip rfl (.skip rfl (.last (.skip rfl (.bind (.token d.token)
      (.skip rfl (.skip (optional_kind d.kind rfl) (.last entries rfl))))) rfl))
  | subroutine d =>
    have body : Restores (list? Statement.ofJson? (.array (statementsJson d.body)))
        (statementNumbers d.body)
        d.body := by
      rw [Statement.statementsJson_eq, Statement.statementNumbers_eq]
      exact .list fun s _ => s.restores
    exact .skip rfl (.skip rfl (.last (.skip rfl (.bind (.token d.token)
      (.skip rfl (.skip (optional_kind d.returns rfl) (.last body rfl))))) rfl))
  | penaltybox d | ratecounter d => exact .skip rfl (.skip rfl (.last d.restores rfl))

theorem Program.restores (p : Program) : Restores (Program.ofJson? p.toJson) p.numbers p := by
  have declarations :
      Restores (list? Declaration.ofJson? (.array (p.declarations.map Declaration.toJson)))
      (p.declarations.flatMap Declaration.numbers) p.declarations := .list fun d _ => d.restores
  exact .skip rfl (.last declarations rfl)

/-- A program whose floating-point numbers are finite is read back from what it is written as; its
lines, columns and indices are words there and its masks octets, as they are on the machine. Any
other one is not. -/
theorem Program.restored_iff (p : Program) :
    Program.ofJson? p.toJson = some p ↔ ∀ n ∈ p.numbers, n.fits = true := by
  have restores := p.restores
  unfold Restores at restores
  rw [restores, ← List.all_eq_true]
  cases p.numbers.all Number.fits with
  | true => exact iff_of_true rfl rfl
  | false => exact iff_of_false nofun nofun

def switching : Program := ⟨[
  .acl ⟨⟨"main", 1, 1⟩, "inside", [⟨true, "192.0.2.0", some 24⟩, ⟨false, "2001:db8::1", none⟩]⟩,
  .subroutine ⟨⟨"main", 4, 1⟩, "vcl_recv", none, [
    .switch ⟨"main", 5, 3⟩ (.ident ⟨"main", 5, 11⟩ "req.url") [
      .mk ⟨"main", 6, 5⟩ (some (.regex "^/a")) [
        .branch ⟨"main", 7, 7⟩ (.prefixed .unknown .not (.boolean .unknown true))
          [.leave ⟨"main", 8, 9⟩]
          [.mk (.group .unknown (.integer .unknown (-1))) [.esi .unknown]] (some [])] true,
      .mk ⟨"main", 10, 5⟩ none [.log .unknown (.float .unknown 0.5), .ret .unknown none] false]
        (some 1)]⟩]⟩

theorem restored_switching : Program.ofJson? switching.toJson = some switching :=
  switching.restored_iff.mpr (List.all_eq_true.mp (by decide))

end EdgeCache
