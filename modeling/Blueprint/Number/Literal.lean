import Blueprint.Number.Decimal

/-!
# Number literals

The number that a literal of whole digits, fraction digits and exponent denotes.
The digits form a significand of at most 64 bits; digits that no longer fit only
count as places. The significand and the power of ten are rounded to doubles
first, and their product or quotient is rounded again.
-/

namespace Blueprint.Literal

/-- Appends digits to a significand while it fits into 64 bits; also returns the
digits left over. -/
def absorb (significand : Nat) : List Char → Nat × List Char
  | [] => (significand, [])
  | c :: rest =>
      let next := 10 * significand + Decimal.digitValue c
      if next < twoTo 64 then absorb next rest else (significand, c :: rest)

def powerOfTen (places : Nat) : Binary64 := Decimal.toDouble false 1 places

/-- Divides by a power of ten, in steps of at most 308 places. -/
def divideByPower (x : Binary64) (places : Nat) : (steps : Nat) → Binary64
  | 0 => x
  | steps + 1 =>
      if places ≤ 308 then x.div (powerOfTen places)
      else divideByPower (x.div (powerOfTen 308)) (places - 308) steps

/-- The double for a significand and a decimal exponent, if it is finite. Three
steps of division bring every significand of 64 bits to zero. -/
def scale (significand : Nat) (exponent : Int) : Option Binary64 :=
  let x := Binary64.ofInt significand
  if significand = 0 then some x
  else if exponent < 0 then some (divideByPower x (-exponent).toNat 3)
  else if 308 < exponent then none
  else
    let product := x.mul (powerOfTen exponent.toNat)
    if product.isFinite then some product else none

/-- The double for the digits around a point and an exponent. -/
def toDouble? (negative : Bool) (whole fraction : List Char) (exponent : Int) :
    Option Binary64 :=
  let (head, skipped) := absorb 0 whole
  let (significand, ignored) := absorb head fraction
  let places : Int := exponent + skipped.length - (fraction.length - ignored.length : Nat)
  (scale significand places).map fun x => .ofMagnitude negative x.magnitude

/-- The whole number for digits without point and exponent, if it has one of the
64-bit forms. Minus zero has none. -/
def toInteger? (negative : Bool) (whole : List Char) : Option Int :=
  let n := Decimal.valueOf whole
  if negative then
    if 0 < n ∧ n ≤ twoTo 63 then some (-(n : Int)) else none
  else if n < twoTo 64 then some n else none

end Blueprint.Literal
