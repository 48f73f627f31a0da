import EdgeCache.Number.Decimal
import EdgeCache.Pattern.Search

/-!
Replacing what a pattern matches. A replacement refers to groups by a backslash with their number.
It is turned into a template, where references are in braces after a dollar sign and a dollar sign
is written twice; expanding the template gives the text of the replacement for one match.
-/

namespace EdgeCache.Pattern.Replacement

open Decimal (isDigit)

def templateFrom (referring : Bool) : List Char → List Char
  | [] => if referring then ['\x7d'] else []
  | c :: rest =>
    if referring && isDigit c then c :: templateFrom true rest
    else
      let closing := if referring then ['\x7d'] else []
      let here :=
        if c == '\\' && (rest.head?.any isDigit) then '$' :: '\x7b' :: templateFrom true rest
        else if c == '$' then '$' :: '$' :: templateFrom false rest
        else c :: templateFrom false rest
      closing ++ here

def template (replacement : List Char) : List Char := templateFrom false replacement

def group (groups : List String) (digits : List Char) : List Char :=
  (groups.getD (Decimal.ofDigits digits) "").toList

def named (groups : List String) (name : List Char) : List Char :=
  if name.all isDigit && !name.isEmpty then group groups name else []

def isNamePart (c : Char) : Bool := c.isAlphanum || c == '_'

/-- Expands a template: a doubled dollar sign stands for one, and a dollar sign before a name, in
braces or not, for the text of that group. -/
def expandFrom (groups : List String) : Nat → List Char → List Char
  | 0, cs => cs
  | fuel + 1, cs =>
    match cs with
    | '$' :: '$' :: rest => '$' :: expandFrom groups fuel rest
    | '$' :: '\x7b' :: rest =>
      match Pieces.cutAt? '\x7d' rest with
      | some (name, after) => named groups name ++ expandFrom groups fuel after
      | none => '$' :: expandFrom groups fuel ('\x7b' :: rest)
    | '$' :: rest =>
      let name := rest.takeWhile isNamePart
      if name.isEmpty then '$' :: expandFrom groups fuel rest
      else named groups name ++ expandFrom groups fuel (rest.drop name.length)
    | c :: rest => c :: expandFrom groups fuel rest
    | [] => []

def expand (groups : List String) (cs : List Char) : List Char := expandFrom groups cs.length cs

def fill (text : Array Char) (template : List Char) : Nat → List Match → List Char
  | place, [] => (text.extract place text.size).toList
  | place, m :: ms =>
    (text.extract place m.span.start).toList ++ expand (m.texts text) template ++
      fill text template m.span.stop ms

def replace (p : Pattern) (all : Bool) (text replacement : String) : String :=
  let cs := text.toList.toArray
  let ms := if all then p.allMatches cs else (p.find? cs 0).toList
  String.ofList (fill cs (template replacement.toList) 0 ms)

end EdgeCache.Pattern.Replacement
