/-!
# Digits of several bases

Hexadecimal digits, of which those of smaller bases are the first ones, and the
numbers that digits spell.
-/

namespace Blueprint.Radix

def hexValue (c : Char) : Option Nat :=
  if '0' ≤ c && c ≤ '9' then some (c.toNat - '0'.toNat)
  else if 'a' ≤ c && c ≤ 'f' then some (c.toNat - 'a'.toNat + 10)
  else if 'A' ≤ c && c ≤ 'F' then some (c.toNat - 'A'.toNat + 10)
  else none

/-- The value of a digit of a base, which is sixteen at most. -/
def digitBelow (base : Nat) (c : Char) : Option Nat := (hexValue c).filter (· < base)

/-- The number that digits of a base spell; no digits spell zero. -/
def valueIn (base : Nat) (cs : List Char) : Option Nat :=
  cs.foldlM (fun value c => (digitBelow base c).map (value * base + ·)) 0

end Blueprint.Radix
