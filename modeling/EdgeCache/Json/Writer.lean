import EdgeCache.Json.Basic
import EdgeCache.Number.Decimal

/-!
Writing JSON text, on one line or indented by two blanks.
-/

namespace EdgeCache.Json

def hexDigit (n : Nat) : Char := (Nat.toDigits 16 n).headD '0'

def escapeChar (c : Char) : List Char :=
  if c = '"' then ['\\', '"']
  else if c = '\\' then ['\\', '\\']
  else if c = '\n' then ['\\', 'n']
  else if c = '\r' then ['\\', 'r']
  else if c = '\t' then ['\\', 't']
  else if c.toNat = 8 then ['\\', 'b']
  else if c.toNat = 12 then ['\\', 'f']
  else if c.toNat < 0x20 then
  ['\\', 'u', '0', '0', hexDigit (c.toNat / 16), hexDigit (c.toNat % 16)]
  else [c]

def quoted (s : String) : List Char := '"' :: s.toList.flatMap escapeChar ++ ['"']

def bareText (x : Float) : List Char :=
  if Binary64.isFinite x then Decimal.shortestText x else "null".toList

mutual

def compact : Json → List Char
  | .null => "null".toList
  | .bool b => if b then "true".toList else "false".toList
  | .int n => Decimal.ofInt n
  | .float x => bareText x
  | .string s => quoted s
  | .array items => '[' :: compactItems items ++ [']']
  | .object fields => '\x7b' :: compactFields fields ++ ['\x7d']

def compactItems : List Json → List Char
  | [] => []
  | [j] => compact j
  | j :: js => compact j ++ ',' :: compactItems js

def compactFields : List (String × Json) → List Char
  | [] => []
  | [(n, j)] => quoted n ++ ':' :: compact j
  | (n, j) :: fs => quoted n ++ ':' :: compact j ++ ',' :: compactFields fs

end

def toText (j : Json) : String := String.ofList j.compact

def margin (level : Nat) : List Char := '\n' :: List.replicate (2 * level) ' '

mutual

def indented (level : Nat) : Json → List Char
  | .array [] => ['[', ']']
  | .array items => '[' :: indentedItems (level + 1) items ++ margin level ++ [']']
  | .object [] => ['\x7b', '\x7d']
  | .object fields => '\x7b' :: indentedFields (level + 1) fields ++ margin level ++ ['\x7d']
  | .null => "null".toList
  | .bool b => if b then "true".toList else "false".toList
  | .int n => Decimal.ofInt n
  | .float x => bareText x
  | .string s => quoted s

def indentedItems (level : Nat) : List Json → List Char
  | [] => []
  | [j] => margin level ++ indented level j
  | j :: js => margin level ++ indented level j ++ ',' :: indentedItems level js

def indentedFields (level : Nat) : List (String × Json) → List Char
  | [] => []
  | [(n, j)] => margin level ++ quoted n ++ ':' :: ' ' :: indented level j
  | (n, j) :: fs =>
    margin level ++ quoted n ++ ':' :: ' ' :: indented level j ++ ',' :: indentedFields level fs

end

def toIndentedText (j : Json) : String := String.ofList (j.indented 0)

end EdgeCache.Json
