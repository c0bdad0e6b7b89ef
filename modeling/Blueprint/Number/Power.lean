/-!
# Powers

The powers of the two bases that numbers are written in.
-/

namespace Blueprint

def twoTo (n : Nat) : Nat := Nat.pow 2 n

def tenTo (n : Nat) : Nat := Nat.pow 10 n

end Blueprint
