import EdgeCache.Unicode.CodeSet

/-!
Patterns as trees, after flags and escapes are resolved.
-/

namespace EdgeCache.Pattern

open Unicode (CodeSet)

/-- A condition on the characters around a place. A word is told by all letters or by the ASCII
ones. -/
inductive Look where
  | start
  | stop
  | lineStart (carriage : Bool)
  | lineEnd (carriage : Bool)
  | wordEdge (ascii : Bool)
  | noWordEdge (ascii : Bool)
  | wordStart (ascii : Bool)
  | wordEnd (ascii : Bool)
  | wordStartHalf (ascii : Bool)
  | wordEndHalf (ascii : Bool)
  deriving Repr, DecidableEq

inductive Tree where
  | empty
  | look (l : Look)
  | one (set : CodeSet)
  | group (index : Nat) (inner : Tree)
  | seq (first second : Tree)
  | either (first second : Tree)
  | repeated (inner : Tree) (least : Nat) (most : Option Nat) (greedy : Bool)

namespace Tree

def onlyEmpty : Tree → Bool
  | empty | look _ => true
  | one _ => false
  | group _ t => t.onlyEmpty
  | seq a b | either a b => a.onlyEmpty && b.onlyEmpty
  | repeated t _ _ _ => t.onlyEmpty

def mayBeEmpty : Tree → Bool
  | empty | look _ => true
  | one _ => false
  | group _ t => t.mayBeEmpty
  | seq a b => a.mayBeEmpty && b.mayBeEmpty
  | either a b => a.mayBeEmpty || b.mayBeEmpty
  | repeated t least _ _ => least == 0 || t.mayBeEmpty

/-- A repetition. What only matches the empty text is not repeated, and what may not occur is
dropped together with its groups. -/
def times (t : Tree) (least : Nat) (most : Option Nat) (greedy : Bool) : Tree :=
  let least' := if t.onlyEmpty then min least 1 else least
  let most' := if t.onlyEmpty then some (min (most.getD 1) 1) else most
  if least' = 0 ∧ most' = some 0 then .empty
  else if least' = 1 ∧ most' = some 1 then t
  else .repeated t least' most' greedy

def lastGroup : Tree → Nat
  | empty | look _ | one _ => 0
  | group n t => max n t.lastGroup
  | seq a b | either a b => max a.lastGroup b.lastGroup
  | repeated t _ _ _ => t.lastGroup

def concat : List Tree → Tree
  | [] => .empty
  | [t] => t
  | t :: ts => .seq t (concat ts)

def choice : List Tree → Tree
  | [] => .empty
  | [t] => t
  | t :: ts => .either t (choice ts)

end Tree

end EdgeCache.Pattern
