import EdgeCache.Failure

/-!
The declarations of a program by name. Names are unique among those of a kind, where backends and
directors are of one kind, and labels are unique in the whole program.
-/

namespace EdgeCache

structure Label where
  name : String
  subroutine : String
  deriving Repr, DecidableEq

structure Declarations where
  acls : List Acl
  backends : List Backend
  tables : List TableDeclaration
  subroutines : List SubroutineDeclaration
  functional : List SubroutineDeclaration
  penaltyboxes : List NamedDeclaration
  ratecounters : List NamedDeclaration
  labels : List Label
  firstOrigin : Option String

namespace Declarations

def empty : Declarations := ⟨[], [], [], [], [], [], [], [], none⟩

def acl? (d : Declarations) (n : String) : Option Acl := d.acls.find? fun a => a.name == n

def backend? (d : Declarations) (n : String) : Option Backend :=
  d.backends.find? fun b => b.name == n

def table? (d : Declarations) (n : String) : Option TableDeclaration :=
  d.tables.find? fun t => t.name == n

def subroutine? (d : Declarations) (n : String) : Option SubroutineDeclaration :=
  d.subroutines.find? fun s => s.name == n

def functional? (d : Declarations) (n : String) : Option SubroutineDeclaration :=
  d.functional.find? fun s => s.name == n

def penaltybox? (d : Declarations) (n : String) : Option NamedDeclaration :=
  d.penaltyboxes.find? fun p => p.name == n

def ratecounter? (d : Declarations) (n : String) : Option NamedDeclaration :=
  d.ratecounters.find? fun r => r.name == n

def label? (d : Declarations) (n : String) : Option Label := d.labels.find? fun l => l.name == n

def defaultBackend? (d : Declarations) : Option Backend := d.firstOrigin.bind d.backend?

def repeated (kind name : String) : Failure :=
  .of (.config s!"{kind} {name} is declared more than once")

def insert {α : Type} (nameOf : α → String) (kind : String) (items : List α) (item : α) :
    Except Failure (List α) :=
  if items.any fun i => nameOf i == nameOf item then .error (repeated kind (nameOf item))
  else .ok (items ++ [item])

mutual

def labelsOf : Statement → List String
  | .label _ name => [name]
  | .block _ body => labelsOfAll body
  | .branch _ _ consequence alternatives alternative =>
    labelsOfAll consequence ++ labelsOfElseIfs alternatives ++
      match alternative with
      | some body => labelsOfAll body
      | none => []
  | .switch _ _ cases _ => labelsOfCases cases
  | _ => []

def labelsOfAll : List Statement → List String
  | [] => []
  | s :: ss => labelsOf s ++ labelsOfAll ss

def labelsOfElseIfs : List ElseIf → List String
  | [] => []
  | .mk _ body :: es => labelsOfAll body ++ labelsOfElseIfs es

def labelsOfCases : List Case → List String
  | [] => []
  | .mk _ _ body _ :: cs => labelsOfAll body ++ labelsOfCases cs

end

def addLabels (s : SubroutineDeclaration) (labels : List Label) : Except Failure (List Label) :=
  (labelsOfAll s.body).foldlM
    (fun ls n => insert Label.name "goto destination" ls ⟨n, s.name⟩) labels

def add (d : Declarations) : Declaration → Except Failure Declarations
  | .acl a =>
    match Acl.ofDeclaration a with
    | .error e => .error ((Failure.of e).pin a.token)
    | .ok acl => return { d with acls := ← insert Acl.name "acl" d.acls acl }
  | .backend b => return {
      d with
      firstOrigin := some (d.firstOrigin.getD b.name)
      backends := ← insert Backend.name "backend" d.backends ⟨b.name, .origin b⟩ }
  | .director p =>
    return { d with backends := ← insert Backend.name "backend" d.backends ⟨p.name, .director p⟩ }
  | .table t => return { d with tables := ← insert TableDeclaration.name "table" d.tables t }
  | .subroutine s => do
    let labels ← addLabels s d.labels
    if s.returns.isSome then
      return { d with
        labels := labels
        functional := ← insert SubroutineDeclaration.name "subroutine" d.functional s }
    else
      return { d with
        labels := labels
        subroutines := ← insert SubroutineDeclaration.name "subroutine" d.subroutines s }
  | .penaltybox p =>
    return { d with penaltyboxes := ← insert NamedDeclaration.name "penaltybox" d.penaltyboxes p }
  | .ratecounter r =>
    return { d with ratecounters := ← insert NamedDeclaration.name "ratecounter" d.ratecounters r }

def load (p : Program) : Except Failure Declarations := p.declarations.foldlM add empty

end Declarations

end EdgeCache
