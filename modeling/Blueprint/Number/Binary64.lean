import Blueprint.Number.Power

/-!
# Double-precision numbers

A double is its 64-bit word. A finite double denotes a whole number of units,
one unit being `2 ^ -1074`, so sums, products and comparisons of doubles are
statements about integers. `nearest` rounds a ratio to a double, a tie going to
the even word.
-/

namespace Blueprint

/-- A double-precision number, as its word: sign, exponent field, fraction. -/
structure Binary64 where
  word : UInt64
  deriving DecidableEq, Inhabited

namespace Binary64

/-- The word of positive infinity; larger magnitudes are not numbers. -/
def infinityWord : Nat := 2047 * twoTo 52

/-- Units in one. -/
def unitsPerOne : Nat := twoTo 1074

def isNegative (x : Binary64) : Bool := decide (twoTo 63 ≤ x.word.toNat)

/-- The word without its sign. -/
def magnitude (x : Binary64) : Nat := x.word.toNat % twoTo 63

def isFinite (x : Binary64) : Bool := decide (x.magnitude < infinityWord)

def isNaN (x : Binary64) : Bool := decide (infinityWord < x.magnitude)

/-- The units that a word without sign stands for. -/
def unitsOfWord (word : Nat) : Nat :=
  let exponent := word / twoTo 52
  let fraction := word % twoTo 52
  if exponent = 0 then fraction else (twoTo 52 + fraction) * twoTo (exponent - 1)

/-- The units in the absolute value of a finite double. -/
def units (x : Binary64) : Nat := unitsOfWord x.magnitude

/-- The value of a finite double, in units. -/
def scaled (x : Binary64) : Int := if x.isNegative then -(x.units : Int) else x.units

/-- The double with a given sign and a given word without sign. -/
def ofMagnitude (negative : Bool) (magnitude : Nat) : Binary64 :=
  ⟨UInt64.ofNat ((if negative then twoTo 63 else 0) + magnitude)⟩

def zero (negative : Bool) : Binary64 := ofMagnitude negative 0

def infinity (negative : Bool) : Binary64 := ofMagnitude negative infinityWord

def nan : Binary64 := ofMagnitude false (infinityWord + twoTo 51)

/-- The whole number nearest to a ratio, a tie going to the even one. -/
def roundDiv (num den : Nat) : Nat :=
  let quotient := num / den
  let rest := num % den
  if 2 * rest < den then quotient
  else if den < 2 * rest then quotient + 1
  else quotient + quotient % 2

/-- The word nearest to a ratio. Between powers of two the words are equally
spaced, so the excess of the exponent over the smallest one and the rounded
significand add up to the word, also when rounding carries. -/
def nearestWord (num den : Nat) : Nat :=
  let excess := Nat.log2 (num * unitsPerOne / den) - 52
  min infinityWord (excess * twoTo 52 + roundDiv (num * unitsPerOne) (den * twoTo excess))

/-- The double nearest to a ratio of natural numbers, with a sign. -/
def nearest (negative : Bool) (num den : Nat) : Binary64 :=
  ofMagnitude negative (nearestWord num den)

def ofInt (n : Int) : Binary64 := nearest (decide (n < 0)) n.natAbs 1

/-- Whether a finite double is a whole number. -/
def isWhole (x : Binary64) : Bool := x.units % unitsPerOne == 0

/-- Order of finite doubles by value; the two zeros are equal. -/
def le (x y : Binary64) : Bool := decide (x.scaled ≤ y.scaled)

/-- Whether a finite double is nearer to zero than the gap between one and the
next double. -/
def isNegligible (x : Binary64) : Bool := decide (x.units < twoTo (1074 - 52))

/-- Whether a double, finite or not, is greater than zero. -/
def isPositive (x : Binary64) : Bool :=
  !x.isNegative && !x.isNaN && x.magnitude != 0

/-- The product of two finite doubles of the first one's sign. -/
def mul (x y : Binary64) : Binary64 :=
  nearest x.isNegative (x.units * y.units) (unitsPerOne * unitsPerOne)

/-- The quotient of two finite doubles with the first one's sign. -/
def div (x y : Binary64) : Binary64 := nearest x.isNegative x.units y.units

end Binary64

end Blueprint
