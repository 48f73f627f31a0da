/-!
Powers of two and of ten, and the bounds of words of 64 bits.
-/

namespace EdgeCache

def twoTo (n : Nat) : Nat := Nat.pow 2 n

def tenTo (n : Nat) : Nat := Nat.pow 10 n

namespace Word

def count : Nat := twoTo 64

def half : Nat := twoTo 63

def least : Int := -half

def greatest : Int := half - 1

end Word

end EdgeCache
