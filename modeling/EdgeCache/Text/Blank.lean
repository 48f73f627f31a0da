import EdgeCache.Unicode.Property

/-!
White space of all scripts, and trimming it.
-/

namespace EdgeCache.Blank

open Unicode

def isBlank (c : Char) : Bool := Property.whiteSpace.contains c

def trimStart (s : List Char) : List Char := s.dropWhile isBlank

def trimEnd (s : List Char) : List Char := (s.reverse.dropWhile isBlank).reverse

def trim (s : List Char) : List Char := trimEnd (trimStart s)

end EdgeCache.Blank
