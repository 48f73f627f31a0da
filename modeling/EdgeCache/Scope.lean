/-!
The stages that a request goes through, the subroutine that runs at each, the states in which it may
end, and sets of stages.
-/

namespace EdgeCache

inductive ReturnState where
  | lookup
  | pass
  | error
  | hash
  | fetch
  | deliver
  | deliverStale
  deriving Repr, DecidableEq

namespace ReturnState

def all : List ReturnState := [lookup, pass, error, hash, fetch, deliver, deliverStale]

def text : ReturnState → String
  | lookup => "lookup"
  | pass => "pass"
  | error => "error"
  | hash => "hash"
  | fetch => "fetch"
  | deliver => "deliver"
  | deliverStale => "deliver_stale"

def ofText? (s : String) : Option ReturnState := all.find? fun r => r.text == s

end ReturnState

inductive Scope where
  | unknown
  | recv
  | hash
  | hit
  | miss
  | pass
  | fetch
  | error
  | deliver
  | log
  deriving Repr, DecidableEq, Inhabited

namespace Scope

def lifecycle : List Scope := [recv, hash, hit, miss, pass, fetch, error, deliver, log]

def text : Scope → String
  | unknown => "unknown"
  | recv => "recv"
  | hash => "hash"
  | hit => "hit"
  | miss => "miss"
  | pass => "pass"
  | fetch => "fetch"
  | error => "error"
  | deliver => "deliver"
  | log => "log"

def subroutine : Scope → String
  | unknown => ""
  | s => "vcl_" ++ s.text

def ofSubroutine? (name : String) : Option Scope := lifecycle.find? fun s => s.subroutine == name

def ofText? (s : String) : Option Scope := lifecycle.find? fun x => x.text == s

def legalReturns : Scope → List ReturnState
  | unknown => []
  | recv => [.lookup, .pass, .error]
  | hash => [.hash]
  | hit => [.deliver, .deliverStale, .error]
  | miss => [.fetch, .pass, .error, .deliverStale]
  | pass => [.pass, .error]
  | fetch => [.deliver, .deliverStale, .pass, .error]
  | error | deliver | log => [.deliver]

def defaultReturn? : Scope → Option ReturnState
  | unknown => none
  | recv => some .lookup
  | hash => some .hash
  | hit => some .deliver
  | miss => some .fetch
  | pass => some .pass
  | fetch | error | deliver | log => some .deliver

def allowsRestart : Scope → Bool
  | hash | log | unknown => false
  | _ => true

def allowsError : Scope → Bool
  | recv | hit | miss | pass | fetch => true
  | _ => false

theorem defaultReturn_legal {s : Scope} {r : ReturnState} (h : s.defaultReturn? = some r) :
    r ∈ s.legalReturns := by
  cases s <;> simp_all [defaultReturn?, legalReturns]

end Scope

structure ScopeSet where
  members : List Scope
  deriving Repr

namespace ScopeSet

def all : ScopeSet := ⟨Scope.lifecycle⟩

def contains (set : ScopeSet) (s : Scope) : Bool := s != .unknown && set.members.contains s

def union (a b : ScopeSet) : ScopeSet := ⟨a.members ++ b.members⟩

def toList (set : ScopeSet) : List Scope := Scope.lifecycle.filter set.contains

end ScopeSet

end EdgeCache
