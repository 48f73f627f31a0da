import EdgeCache.Text.Percent
import EdgeCache.Text.Pieces

/-!
The query of a URL: what follows the first question mark, in segments. A segment that is not touched
is written as it was read. The name of a segment ends at its first `=`.
-/

namespace EdgeCache

structure Query where
  path : List Char
  segments : List (List Char)
  deriving Repr, DecidableEq

namespace Query

def ofText (url : List Char) : Query :=
  match Pieces.cutAt? '?' url with
  | some (path, query) => ⟨path, Pieces.splitOn '&' query⟩
  | none => ⟨url, []⟩

def text (q : Query) : List Char :=
  if q.segments.isEmpty then q.path else q.path ++ '?' :: Pieces.join ['&'] q.segments

def nameOf (segment : List Char) : List Char := segment.takeWhile (· != '=')

def valueOf (segment : List Char) : List Char := (segment.drop (nameOf segment).length).drop 1

def get? (q : Query) (name : List Char) : Option (List Char) :=
  (q.segments.find? fun s => nameOf s == name).map valueOf

def segment (name value : List Char) : List Char := name ++ '=' :: Percent.encodeForm value

/-- Puts a segment in the place of the first of its name and drops the others; behind all if there
is none. -/
def setIn (name new : List Char) : List (List Char) → List (List Char)
  | [] => [new]
  | s :: rest =>
    if nameOf s == name then new :: rest.filter (fun r => nameOf r != name)
    else s :: setIn name new rest

def set (q : Query) (name value : List Char) : Query :=
  { q with segments := setIn name (segment name value) q.segments }

def add (q : Query) (name value : List Char) : Query :=
  { q with segments := q.segments ++ [segment name value] }

def keep (q : Query) (p : List Char → Bool) : Query :=
  { q with segments := q.segments.filter fun s => p (nameOf s) }

def clean (q : Query) : Query :=
  { q with segments := q.segments.filter fun s => !s.isEmpty && s.head? != some '=' }

def atMost : List Char → List Char → Bool
  | [], _ => true
  | _ :: _, [] => false
  | a :: as, b :: bs => a.toNat < b.toNat || (a == b && atMost as bs)

def segmentAtMost (a b : List Char) : Bool :=
  if nameOf a == nameOf b then atMost a b else atMost (nameOf a) (nameOf b)

def sort (q : Query) : Query := { q with segments := q.segments.mergeSort segmentAtMost }

end Query

end EdgeCache
