import Blueprint.Number.Decimal

/-!
# Shortest decimal of a double

The decimal with the fewest digits that reads back as a given positive finite
double, and among those the one nearest to it. The numbers that read back form
an interval around the double, and if the interval meets a decimal grid at all
it contains one of the double's two neighbours on that grid.
-/

namespace Blueprint.Shortest

/-- A positive decimal `digits * 10 ^ exponent`. -/
structure Digits where
  digits : Nat
  exponent : Int

/-- The exponent of the leading decimal digit of `units` units. -/
def leadingExponent (units : Nat) : Int :=
  (Decimal.width (units * tenTo 330 / Binary64.unitsPerOne) : Int) - 331

/-- `digits * 10 ^ exponent` and a count of half units over a common scale. -/
def onScale (digits : Nat) (exponent : Int) (halfUnits : Nat) : Nat × Nat :=
  if 0 ≤ exponent then
    (digits * tenTo exponent.toNat * (2 * Binary64.unitsPerOne), halfUnits)
  else
    (digits * (2 * Binary64.unitsPerOne), halfUnits * tenTo (-exponent).toNat)

/-- Whether a decimal reads back as the double with a given positive word. The
ends of the interval belong to it when the word is even. -/
def readsBack (word : Nat) (candidate : Digits) : Bool :=
  let units := Binary64.unitsOfWord word
  let (value, low) := onScale candidate.digits candidate.exponent
    (Binary64.unitsOfWord (word - 1) + units)
  let (_, high) := onScale candidate.digits candidate.exponent
    (units + Binary64.unitsOfWord (word + 1))
  if word % 2 = 0 then low ≤ value && value ≤ high else low < value && value < high

/-- The better of the double's two neighbours on a decimal grid, if one reads
back: the nearer, and the even one if they are equally near. -/
def onGrid (word : Nat) (exponent : Int) : Option Digits :=
  let halfUnits := 2 * Binary64.unitsOfWord word
  let (step, value) := onScale 1 exponent halfUnits
  let low := value / step
  let lower : Digits := ⟨low, exponent⟩
  let upper : Digits := ⟨low + 1, exponent⟩
  match readsBack word lower, readsBack word upper with
  | true, true =>
      let rest := 2 * (value % step)
      if rest < step || (rest == step && low % 2 == 0) then some lower else some upper
  | true, false => some lower
  | false, true => some upper
  | false, false => none

/-- Tries grids of more and more digits, `count` of them, and takes all of the
last grid's digits if none reads back. -/
def search (word : Nat) (exponent : Int) : (count : Nat) → Digits
  | 0 => ⟨0, 0⟩
  | count + 1 => (onGrid word exponent).getD (search word (exponent - 1) count)

/-- Moves zeros at the end of the digits into the exponent. -/
def stripZeros (d : Digits) : Digits :=
  if d.digits ≠ 0 ∧ d.digits % 10 = 0 then
    stripZeros ⟨d.digits / 10, d.exponent + 1⟩
  else d
termination_by d.digits
decreasing_by omega

/-- The shortest decimal of the double with a given positive finite word. -/
def shortest (word : Nat) : Digits :=
  stripZeros (search word (leadingExponent (Binary64.unitsOfWord word)) 17)

end Blueprint.Shortest
