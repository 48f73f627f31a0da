/-!
Texts cut and searched: the first place of a part, cutting at a character or a part, and replacing.
-/

namespace EdgeCache.Pieces

def splitOn (sep : Char) : List Char → List (List Char)
  | [] => [[]]
  | c :: rest =>
    if c = sep then [] :: splitOn sep rest
    else
      match splitOn sep rest with
      | [] => [[c]]
      | p :: ps => (c :: p) :: ps

def join (sep : List Char) : List (List Char) → List Char
  | [] => []
  | [p] => p
  | p :: q :: ps => p ++ sep ++ join sep (q :: ps)

def cutAt? (sep : Char) (s : List Char) : Option (List Char × List Char) :=
  let before := s.takeWhile (· != sep)
  match s.drop before.length with
  | [] => none
  | _ :: after => some (before, after)

def cutAtPart? (part : List Char) : List Char → Option (List Char × List Char)
  | [] => if part.isEmpty then some ([], []) else none
  | c :: rest =>
    if part.isPrefixOf (c :: rest) then some ([], (c :: rest).drop part.length)
    else (cutAtPart? part rest).map fun (before, after) => (c :: before, after)

def containsPart (part s : List Char) : Bool := (cutAtPart? part s).isSome

def fromPart? (part s : List Char) : Option (List Char) :=
  (cutAtPart? part s).map fun (_, after) => part ++ after

def replaceFirst (part new s : List Char) : List Char :=
  if part.isEmpty then s
  else
    match cutAtPart? part s with
    | some (before, after) => before ++ new ++ after
    | none => s

def replaceUpTo (part new : List Char) : Nat → List Char → List Char
  | 0, s => s
  | fuel + 1, s =>
    match cutAtPart? part s with
    | some (before, after) => before ++ new ++ replaceUpTo part new fuel after
    | none => s

def replaceAll (part new s : List Char) : List Char :=
  if part.isEmpty then s else replaceUpTo part new s.length s

end EdgeCache.Pieces
