import EdgeCache.Number.Decimal
import EdgeCache.Pattern.Tree
import EdgeCache.Text.Blank
import EdgeCache.Text.Pieces
import EdgeCache.Unicode.Case
import EdgeCache.Unicode.Script

/-!
Reading patterns. Groups may be named and may set flags for what follows in them; classes in
brackets nest and combine. Look-around and references to groups are refused.
-/

namespace EdgeCache.Pattern

open Unicode

inductive Fault where
  | lookAround
  | reference
  | unclosedGroup
  | unopenedGroup
  | groupName
  | repeatedName
  | flag
  | missingOperand
  | count
  | escape
  | code
  | property
  | unclosedClass
  | classItem
  | range
  | notText
  | tooDeep
  deriving Repr, DecidableEq

def Fault.message : Fault → String
  | lookAround => "look-around is not supported"
  | reference => "references to groups are not supported"
  | unclosedGroup => "a group is not closed"
  | unopenedGroup => "a group is closed that was not opened"
  | groupName => "invalid group name"
  | repeatedName => "a group name is repeated"
  | flag => "invalid flags"
  | missingOperand => "a repetition has nothing to repeat"
  | count => "invalid repetition count"
  | escape => "invalid escape"
  | code => "invalid code point"
  | property => "unknown property"
  | unclosedClass => "a class is not closed"
  | classItem => "invalid item of a class"
  | range => "invalid range"
  | notText => "the pattern can match what is not text"
  | tooDeep => "the pattern is nested too deeply"

structure Flags where
  ignoreCase : Bool
  multiLine : Bool
  dotAll : Bool
  swapGreed : Bool
  unicode : Bool
  carriage : Bool
  spaced : Bool

def Flags.initial : Flags := ⟨false, false, false, false, true, false, false⟩

structure Rest where
  chars : List Char
  groups : Nat
  names : List (List Char)

structure Nested where
  tree : Tree
  depth : Nat

def maxDepth : Nat := 250

def afterLine (cs : List Char) : List Char := (cs.dropWhile (· != '\n')).drop 1

def skipSpaceFrom : Nat → List Char → List Char
  | 0, cs => cs
  | fuel + 1, cs =>
    match cs with
    | '#' :: rest => skipSpaceFrom fuel (afterLine rest)
    | c :: rest => if Blank.isBlank c then skipSpaceFrom fuel rest else cs
    | [] => []

def Flags.skip (f : Flags) (cs : List Char) : List Char :=
  if f.spaced then skipSpaceFrom cs.length cs else cs

def asciiDigit : CodeSet := CodeSet.range 0x30 0x39
def asciiSpace : CodeSet := CodeSet.ofIntervals [(0x9, 0xd), (0x20, 0x20)]
def asciiWord : CodeSet :=
  CodeSet.ofIntervals [(0x30, 0x39), (0x41, 0x5a), (0x5f, 0x5f), (0x61, 0x7a)]

def allCodes : CodeSet := CodeSet.range 0 0x10FFFF

/-- A set of bytes is a set of characters if all are ASCII. -/
def checkText (f : Flags) (s : CodeSet) : Except Fault CodeSet :=
  match f.unicode, s.bounds? with
  | false, some (_, hi) => if hi < 0x80 then .ok s else .error .notText
  | _, _ => .ok s

def foldCase (f : Flags) (s : CodeSet) : CodeSet :=
  if !f.ignoreCase then s
  else if f.unicode then Case.close s
  else
    let lower := s.inter (CodeSet.range 0x61 0x7a)
    let upper := s.inter (CodeSet.range 0x41 0x5a)
    CodeSet.unions
      [s, CodeSet.ofIntervals (lower.intervals.toList.map fun r => (r.1 - 32, r.2 - 32)),
      CodeSet.ofIntervals (upper.intervals.toList.map fun r => (r.1 + 32, r.2 + 32))]

def foldAndNegate (f : Flags) (negated : Bool) (s : CodeSet) : CodeSet :=
  let s := foldCase f s
  if negated then s.complement else s

def letterClass (f : Flags) (c : Char) : CodeSet :=
  let plain := match c.toLower with
    | 'd' => if f.unicode then Category.decimalNumber else asciiDigit
    | 's' => if f.unicode then Property.whiteSpace else asciiSpace
    | _ => if f.unicode then Property.word else asciiWord
  if c.isUpper then plain.complement else plain

def namedClass? (name : List Char) : Option CodeSet :=
  match String.ofList name with
  | "alnum" => some (CodeSet.ofIntervals [(0x30, 0x39), (0x41, 0x5a), (0x61, 0x7a)])
  | "alpha" => some (CodeSet.ofIntervals [(0x41, 0x5a), (0x61, 0x7a)])
  | "ascii" => some (CodeSet.range 0 0x7f)
  | "blank" => some (CodeSet.ofIntervals [(0x9, 0x9), (0x20, 0x20)])
  | "cntrl" => some (CodeSet.ofIntervals [(0, 0x1f), (0x7f, 0x7f)])
  | "digit" => some asciiDigit
  | "graph" => some (CodeSet.range 0x21 0x7e)
  | "lower" => some (CodeSet.range 0x61 0x7a)
  | "print" => some (CodeSet.range 0x20 0x7e)
  | "punct" =>
    some (CodeSet.ofIntervals [(0x21, 0x2f), (0x3a, 0x40), (0x5b, 0x60), (0x7b, 0x7e)])
  | "space" => some asciiSpace
  | "upper" => some (CodeSet.range 0x41 0x5a)
  | "word" => some asciiWord
  | "xdigit" => some (CodeSet.ofIntervals [(0x30, 0x39), (0x41, 0x46), (0x61, 0x66)])
  | _ => none

/-- The name without case and separators, and without `is` in front. -/
def plainName (name : List Char) : String :=
  let bare := (name.filter fun c => c.isAlphanum).map Char.toLower
  match bare with
  | ['i', 's', 'c'] => "isc"
  | 'i' :: 's' :: rest => String.ofList rest
  | _ => String.ofList bare

def category? (name : String) : Option CodeSet :=
  match name with
  | "any" => some allCodes
  | "ascii" => some (CodeSet.range 0 0x7f)
  | "assigned" => some Category.unassigned.complement
  | _ => Category.find? name

def property? (name : List Char) : Option CodeSet :=
  let bySign (sign : List Char) : Option (List Char × List Char) := Pieces.cutAtPart? sign name
  let valued (p v : List Char) : Option CodeSet :=
    match plainName p with
    | "generalcategory" | "gc" => category? (plainName v)
    | "script" | "sc" | "scriptextensions" | "scx" => Script.find? (plainName v)
    | _ => none
  match bySign ['!', '='], bySign [':'], bySign ['='] with
  | some (p, v), _, _ => (valued p v).map CodeSet.complement
  | none, some (p, v), _ => valued p v
  | none, none, some (p, v) => valued p v
  | none, none, none =>
    let n := plainName name
    -- three names of categories are also names of properties and stand for the category
    let first := if n = "cf" ∨ n = "sc" ∨ n = "lc" then none else Property.find? n
    match first with
    | some s => some s
    | none =>
      match category? n with
      | some s => some s
      | none => Script.find? n

inductive Item where
  | literal (c : Char)
  | byte (n : Nat)
  | set (s : CodeSet)
  | look (l : Look)

def isMeta (c : Char) : Bool := "\\.+*?()|[]\x7b\x7d^$#&-~".toList.contains c

def isEscapable (c : Char) : Bool :=
  c.toNat < 0x80 && !c.isAlphanum && c != '<' && c != '>'

def hexDigits (f : Flags) : Nat → List Char → Except Fault (List Char × List Char)
  | 0, cs => .ok ([], cs)
  | n + 1, cs =>
    match cs with
    | c :: rest =>
      if (hexValue? c).isNone then .error .escape
      else do
        let (more, rest) ← hexDigits f n (f.skip rest)
        return (c :: more, rest)
    | [] => .error .escape

def isScalar (n : Nat) : Bool := n < 0xD800 || (0xDFFF < n && n ≤ 0x10FFFF)

def codeItem (digits : List Char) (fixedByte : Bool) : Except Fault Item :=
  let n := hexNumber digits
  if digits.isEmpty then .error .escape
  else if !isScalar n then .error .code
  else if fixedByte then .ok (.byte n)
  else .ok (.literal (Char.ofNat n))

def despaced (f : Flags) (cs : List Char) : List Char :=
  if f.spaced then cs.filter fun c => !Blank.isBlank c else cs

def readCode (f : Flags) (count : Nat) (cs : List Char) : Except Fault (Item × List Char) :=
  match f.skip cs with
  | [] => .error .escape
  | '\x7b' :: rest =>
    match Pieces.cutAt? '\x7d' rest with
    | none => .error .escape
    | some (inside, after) => do
      let digits := despaced f inside
      if digits.any fun c => (hexValue? c).isNone then .error .escape
      return (← codeItem digits false, f.skip after)
  | cs => do
    let (digits, rest) ← hexDigits f count cs
    return (← codeItem digits (count == 2), f.skip rest)

def readProperty (f : Flags) (negated : Bool) (cs : List Char) :
    Except Fault (Item × List Char) := do
  let (name, rest) ← match f.skip cs with
    | [] => .error .escape
    | '\x7b' :: rest =>
      match Pieces.cutAt? '\x7d' rest with
      | none => .error .escape
      | some (inside, after) => .ok (despaced f inside, after)
    | '\\' :: _ => .error .property
    | c :: rest => .ok ([c], f.skip rest)
  if !f.unicode then .error .notText
  match property? name with
  | none => .error .property
  | some s => return (.set (foldAndNegate f negated s), rest)

def isEdgeLetter (c : Char) : Bool := c.isAlpha || c == '-'

def readEdge (f : Flags) (cs : List Char) : Except Fault (Item × List Char) :=
  let plain := Item.look (.wordEdge !f.unicode)
  match cs with
  | '\x7b' :: rest =>
    match f.skip rest with
    | [] => .error .escape
    | inside@(c :: _) =>
      if !isEdgeLetter c then .ok (plain, cs)
      else
        match Pieces.cutAt? '\x7d' inside with
        | none => .error .escape
        | some (name, after) =>
          match String.ofList (despaced f name) with
          | "start" => .ok (.look (.wordStart !f.unicode), after)
          | "end" => .ok (.look (.wordEnd !f.unicode), after)
          | "start-half" => .ok (.look (.wordStartHalf !f.unicode), after)
          | "end-half" => .ok (.look (.wordEndHalf !f.unicode), after)
          | _ => .error .escape
  | _ => .ok (plain, cs)

def readEscape (f : Flags) : List Char → Except Fault (Item × List Char)
  | [] => .error .escape
  | c :: rest =>
    if c.isDigit then .error .reference
    else if c == 'x' then readCode f 2 rest
    else if c == 'u' then readCode f 4 rest
    else if c == 'U' then readCode f 8 rest
    else if c == 'p' || c == 'P' then readProperty f (c == 'P') rest
    else if "dswDSW".toList.contains c then do
      return (.set (← checkText f (letterClass f c)), rest)
    else if isMeta c || isEscapable c then .ok (.literal c, rest)
    else
      match c with
      | 'a' => .ok (.literal '\x07', rest)
      | 'f' => .ok (.literal '\x0c', rest)
      | 't' => .ok (.literal '\t', rest)
      | 'n' => .ok (.literal '\n', rest)
      | 'r' => .ok (.literal '\r', rest)
      | 'v' => .ok (.literal '\x0b', rest)
      | 'A' => .ok (.look .start, rest)
      | 'z' => .ok (.look .stop, rest)
      | 'b' => readEdge f rest
      | 'B' => .ok (.look (.noWordEdge !f.unicode), rest)
      | '<' => .ok (.look (.wordStart !f.unicode), rest)
      | '>' => .ok (.look (.wordEnd !f.unicode), rest)
      | _ => .error .escape

/-- The character that an item is. Without the flag for it, bytes beyond ASCII are no text. -/
def Item.char? (f : Flags) : Item → Except Fault (Option Char)
  | .literal c => .ok (some c)
  | .byte n => if f.unicode || n < 0x80 then .ok (some (Char.ofNat n)) else .error .notText
  | _ => .ok none

def Item.member (f : Flags) (i : Item) (beyond : Fault) : Except Fault Char := do
  match ← i.char? f with
  | none => .error beyond
  | some c => if f.unicode || c.toNat < 0x80 then return c else .error .notText

inductive Combination where
  | both
  | without
  | onlyOne

def Combination.apply (f : Flags) (k : Combination) (a b : CodeSet) : CodeSet :=
  let a := foldCase f a
  let b := foldCase f b
  match k with
  | .both => a.inter b
  | .without => a.diff b
  | .onlyOne => a.symmDiff b

def readClassItem (f : Flags) : List Char → Except Fault (Item × List Char)
  | '\\' :: rest => readEscape f rest
  | c :: rest => .ok (.literal c, rest)
  | [] => .error .unclosedClass

def readRange (f : Flags) (cs : List Char) : Except Fault (CodeSet × List Char) := do
  let (first, rest) ← readClassItem f cs
  let rest := f.skip rest
  let single : Except Fault (CodeSet × List Char) :=
    match first with
    | .set s => .ok (s, rest)
    | i => do return (CodeSet.singleton (← i.member f .classItem).toNat, rest)
  match rest with
  | [] => .error .unclosedClass
  | '-' :: after =>
    match f.skip after with
    | ']' :: _ | '-' :: _ => single
    | [] => .error .unclosedClass
    | next => do
      let (second, rest) ← readClassItem f next
      let lo ← first.member f .range
      let hi ← second.member f .range
      if hi < lo then .error .range
      return (CodeSet.range lo.toNat hi.toNat, rest)
  | _ => single

def readNamed? (f : Flags) (cs : List Char) : Option (CodeSet × List Char) := do
  let (negated, rest) ← match cs with
    | '[' :: ':' :: '^' :: rest => some (true, rest)
    | '[' :: ':' :: rest => some (false, rest)
    | _ => none
  let (name, after) ← Pieces.cutAt? ':' rest
  match after with
  | ']' :: rest => return (foldAndNegate f negated (← namedClass? name), rest)
  | _ => none

/-- The hyphens, or else the closing bracket, that stand for themselves at the start of a class. -/
def leadingMembers (f : Flags) : Nat → List Char → CodeSet × List Char
  | 0, cs => (.empty, cs)
  | fuel + 1, cs =>
    match cs with
    | '-' :: rest =>
      let (_, rest) := hyphens fuel (f.skip rest)
      (CodeSet.singleton 0x2d, rest)
    | ']' :: rest => (CodeSet.singleton 0x5d, f.skip rest)
    | _ => (.empty, cs)
where
  hyphens : Nat → List Char → Unit × List Char
    | 0, cs => ((), cs)
    | fuel + 1, cs =>
      match cs with
      | '-' :: rest => hyphens fuel (f.skip rest)
      | _ => ((), cs)

mutual

def readClass (f : Flags) : Nat → List Char → Except Fault (CodeSet × List Char)
  | 0, _ => .error .tooDeep
  | fuel + 1, cs => do
    let (negated, cs) := match f.skip cs with
      | '^' :: rest => (true, f.skip rest)
      | cs => (false, cs)
    let (start, rest) := leadingMembers f cs.length cs
    let (s, rest) ← readMembers f fuel none start rest
    return (foldAndNegate f negated s, rest)

/-- The members of a class up to its closing bracket: `left` is what stands before the last
combining sign, and `set` what came after it. -/
def readMembers (f : Flags) :
    Nat → Option (CodeSet × Combination) → CodeSet → List Char → Except Fault (CodeSet × List Char)
  | 0, _, _, _ => .error .tooDeep
  | fuel + 1, left, set, cs => do
    let closed := match left with
      | some (l, k) => k.apply f l set
      | none => set
    match f.skip cs with
    | [] => .error .unclosedClass
    | ']' :: rest => return (closed, rest)
    | '&' :: '&' :: rest => readMembers f fuel (some (closed, .both)) .empty rest
    | '-' :: '-' :: rest => readMembers f fuel (some (closed, .without)) .empty rest
    | '~' :: '~' :: rest => readMembers f fuel (some (closed, .onlyOne)) .empty rest
    | cs@('[' :: inside) =>
      match readNamed? f cs with
      | some (s, rest) => readMembers f fuel left (set.union s) rest
      | none =>
        let (s, rest) ← readClass f fuel inside
        readMembers f fuel left (set.union s) rest
    | cs =>
      let (s, rest) ← readRange f cs
      readMembers f fuel left (set.union s) rest

end

def readBrackets (f : Flags) (cs : List Char) : Except Fault (CodeSet × List Char) := do
  let (s, rest) ← readClass f (2 * cs.length + 2) cs
  return (← checkText f s, rest)

def readCount (f : Flags) (cs : List Char) : Except Fault (Option Nat × List Char) :=
  let cs := Blank.trimStart cs
  let isPart := fun c => Decimal.isDigit c || (f.spaced && Blank.isBlank c)
  let digits := (cs.takeWhile isPart).filter Decimal.isDigit
  let rest := f.skip (Blank.trimStart (cs.dropWhile isPart))
  if digits.isEmpty then .ok (none, rest)
  else
    let n := Decimal.ofDigits digits
    if n < twoTo 32 then .ok (some n, rest) else .error .count

def readBounds (f : Flags) (cs : List Char) : Except Fault ((Nat × Option Nat) × List Char) := do
  let (least, rest) ← readCount f (f.skip cs)
  match least, rest with
  | some n, '\x7d' :: rest => return ((n, some n), rest)
  | some n, ',' :: rest =>
    match f.skip rest with
    | '\x7d' :: rest => return ((n, none), rest)
    | rest =>
      let (most, rest) ← readCount f rest
      match most, rest with
      | some m, '\x7d' :: rest => if m < n then .error .count else return ((n, some m), rest)
      | _, _ => .error .count
  | _, _ => .error .count

def readGreed (f : Flags) : List Char → Bool × List Char
  | '?' :: rest => (f.swapGreed, rest)
  | rest => (!f.swapGreed, rest)

def Flags.set? (f : Flags) (c : Char) (on : Bool) : Option Flags :=
  match c with
  | 'i' => some { f with ignoreCase := on }
  | 'm' => some { f with multiLine := on }
  | 's' => some { f with dotAll := on }
  | 'U' => some { f with swapGreed := on }
  | 'u' => some { f with unicode := on }
  | 'R' => some { f with carriage := on }
  | 'x' => some { f with spaced := on }
  | _ => none

/-- Flags up to the colon or the parenthesis, each at most once, those after a hyphen to be
cleared. -/
def readFlags (f : Flags) (seen : List Char) :
    List Char → Except Fault (Flags × List Char × List Char)
  | [] => .error .flag
  | c :: rest =>
    if c == ':' || c == ')' then
      if seen.head? = some '-' then .error .flag else .ok (f, seen, c :: rest)
    else if seen.contains c then .error .flag
    else if c == '-' then readFlags f (c :: seen) rest
    else
      match f.set? c (!seen.contains '-') with
      | some f => readFlags f (c :: seen) rest
      | none => .error .flag

def isNameStart (c : Char) : Bool := c == '_' || Property.alphabetic.contains c

def isNamePart (c : Char) : Bool :=
  isNameStart c || "._[]".toList.contains c || Category.decimalNumber.contains c ||
    Category.letterNumber.contains c || Category.otherNumber.contains c

def readGroupName (cs : List Char) : Except Fault (List Char × List Char) :=
  match Pieces.cutAt? '>' cs with
  | none => .error .groupName
  | some (name, rest) =>
    match name with
    | [] => .error .groupName
    | c :: more =>
      if isNameStart c && more.all isNamePart then .ok (name, rest) else .error .groupName

inductive Opening where
  | capture
  | plain (f : Flags)
  | flags (f : Flags)

def readOpening (f : Flags) (r : Rest) (cs : List Char) : Except Fault (Opening × Rest) := do
  let named (name rest : List Char) : Except Fault (Opening × Rest) :=
    if r.names.contains name then .error .repeatedName
    else .ok (.capture, ⟨rest, r.groups + 1, name :: r.names⟩)
  match f.skip cs with
  | '?' :: '=' :: _ | '?' :: '!' :: _ | '?' :: '<' :: '=' :: _ | '?' :: '<' :: '!' :: _ =>
    .error .lookAround
  | '?' :: 'P' :: '<' :: rest | '?' :: '<' :: rest =>
    let (name, rest) ← readGroupName rest
    named name rest
  | '?' :: rest =>
    let (f', seen, rest) ← readFlags f [] rest
    match rest with
    | ':' :: rest => return (.plain f', { r with chars := rest })
    | _ =>
      if seen.isEmpty then .error .missingOperand
      else return (.flags f', { r with chars := rest.drop 1 })
  | rest => return (.capture, { r with chars := rest, groups := r.groups + 1 })

def dotSet (f : Flags) : CodeSet :=
  if f.dotAll then allCodes
  else if f.carriage then (CodeSet.ofIntervals [(0xa, 0xa), (0xd, 0xd)]).complement
  else (CodeSet.singleton 0xa).complement

def itemTree (f : Flags) (i : Item) : Except Fault Tree := do
  match i with
  | .set s => return .one s
  | .look l => return .look l
  | i =>
    match ← i.char? f with
    | some c =>
      let s := CodeSet.singleton c.toNat
      return .one (if f.unicode || c.toNat < 0x80 then foldCase f s else s)
    | none => .error .classItem

def readPrimitive (f : Flags) : List Char → Except Fault (Tree × List Char)
  | '\\' :: rest => do
    let (i, rest) ← readEscape f rest
    return (← itemTree f i, rest)
  | '.' :: rest => if f.unicode then .ok (.one (dotSet f), rest) else .error .notText
  | '^' :: rest => .ok (.look (if f.multiLine then .lineStart f.carriage else .start), rest)
  | '$' :: rest => .ok (.look (if f.multiLine then .lineEnd f.carriage else .stop), rest)
  | '[' :: rest => do
    let (s, rest) ← readBrackets f rest
    return (.one s, rest)
  | c :: rest => do return (← itemTree f (.literal c), rest)
  | [] => .error .missingOperand

def deepest (ns : List Nested) : Nat := (ns.map (·.depth)).foldl max 0

def sequenceOf (items : List Nested) : Nested :=
  let depth := deepest items
  ⟨Tree.concat (items.reverse.map (·.tree)), if items.length ≤ 1 then depth else depth + 1⟩

def choiceOf (branches : List Nested) : Nested :=
  let depth := deepest branches
  ⟨Tree.choice (branches.reverse.map (·.tree)), if branches.length ≤ 1 then depth else depth + 1⟩

/-- Reads on in a group, or outside of all groups, to its end. `branches` are the finished
alternatives and `items` what the present one holds so far, both last first; `operable` tells
whether an operator may repeat the last item. -/
def readGroup :
    Nat → Bool → Flags → List Nested → List Nested → Bool → Rest → Except Fault (Nested × Rest)
  | 0, _, _, _, _, _, _ => .error .tooDeep
  | fuel + 1, inside, f, branches, items, operable, r => do
    let whole : Nested := choiceOf (sequenceOf items :: branches)
    let repeated (least : Nat) (most : Option Nat) (rest : List Char) : Except Fault
        (Nested × Rest) :=
      match operable, items with
      | true, t :: ts =>
        let (greedy, rest) := readGreed f rest
        let item : Nested := ⟨t.tree.times least most greedy, t.depth + 1⟩
        readGroup fuel inside f branches (item :: ts) true { r with chars := rest }
      | _, _ => .error .missingOperand
    match f.skip r.chars with
    | [] => if inside then .error .unclosedGroup else return (whole, { r with chars := [] })
    | ')' :: rest =>
      if inside then return (whole, { r with chars := rest }) else .error .unopenedGroup
    | '|' :: rest =>
      readGroup fuel inside f (sequenceOf items :: branches) [] false { r with chars := rest }
    | '*' :: rest => repeated 0 none rest
    | '+' :: rest => repeated 1 none rest
    | '?' :: rest => repeated 0 (some 1) rest
    | '\x7b' :: rest =>
      if !operable then .error .missingOperand
      let ((least, most), rest) ← readBounds f rest
      repeated least most (f.skip rest)
    | '(' :: rest =>
      let (opening, inner) ← readOpening f r rest
      match opening with
      | .flags f' => readGroup fuel inside f' branches items false inner
      | .plain f' =>
        let (t, after) ← readGroup fuel true f' [] [] false inner
        readGroup fuel inside f branches (⟨t.tree, t.depth + 1⟩ :: items) true after
      | .capture =>
        let (t, after) ← readGroup fuel true f [] [] false inner
        readGroup fuel inside f branches (⟨.group inner.groups t.tree, t.depth + 1⟩ :: items)
          true after
    | cs =>
      let (t, rest) ← readPrimitive f cs
      let depth := if cs.head? = some '[' then 1 else 0
      readGroup fuel inside f branches (⟨t, depth⟩ :: items) true { r with chars := rest }

def Tree.ofText (text : String) : Except Fault Tree := do
  let cs := text.toList
  let (n, _) ← readGroup (cs.length + 1) false .initial [] [] false ⟨cs, 0, []⟩
  if maxDepth < n.depth then .error .tooDeep
  return n.tree

end EdgeCache.Pattern
