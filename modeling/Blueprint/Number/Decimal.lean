import Blueprint.Number.Binary64
import Blueprint.Text.Join

/-!
# Decimal numerals

Natural numbers as ASCII digits, and the numerals for doubles that a form field
may hold: an optional sign, digits with an optional point, an optional exponent,
or the names of infinity and of the value that is not a number.
-/

namespace Blueprint.Decimal

def isDigit (c : Char) : Bool := '0' ≤ c && c ≤ '9'

def digitValue (c : Char) : Nat := c.toNat - '0'.toNat

/-- The number that a list of digits spells. -/
def valueOf (digits : List Char) : Nat :=
  digits.foldl (fun value c => 10 * value + digitValue c) 0

/-- Reads a non-empty list of digits. -/
def readNat (cs : List Char) : Option Nat :=
  if cs.isEmpty || !cs.all isDigit then none else some (valueOf cs)

/-- Reads digits with an optional plus sign in front. -/
def readUnsigned : List Char → Option Nat
  | '+' :: cs => readNat cs
  | cs => readNat cs

/-- The number of decimal digits of a number; one for zero. -/
def width (n : Nat) : Nat := (Nat.toDigits 10 n).length

/-- The double nearest to `digits * 10 ^ exponent`. Beyond four hundred places
on either side the result is infinite or zero whatever the digits are. -/
def toDouble (negative : Bool) (digits : Nat) (exponent : Int) : Binary64 :=
  let size := exponent + width digits
  if digits = 0 then .zero negative
  else if 400 < size then .infinity negative
  else if size < -400 then .zero negative
  else if 0 ≤ exponent then .nearest negative (digits * tenTo exponent.toNat) 1
  else .nearest negative digits (tenTo (-exponent).toNat)

/-- Splits an optional sign off; the flag tells a minus. -/
def takeSign : List Char → Bool × List Char
  | '-' :: cs => (true, cs)
  | '+' :: cs => (false, cs)
  | cs => (false, cs)

/-- Reads what may follow the significand: nothing, or a marked exponent. -/
def readExponent : List Char → Option Int
  | [] => some 0
  | c :: cs =>
      if c = 'e' || c = 'E' then
        let (negative, digits) := takeSign cs
        (readNat digits).map fun n => if negative then -(n : Int) else n
      else none

/-- Reads an unsigned numeral with an optional point and exponent. At least one
digit stands before or after the point. -/
def readSignificand (negative : Bool) (cs : List Char) : Option Binary64 :=
  let whole := cs.takeWhile isDigit
  let afterWhole := cs.dropWhile isDigit
  let (fraction, rest) := match afterWhole with
    | '.' :: tail => (tail.takeWhile isDigit, tail.dropWhile isDigit)
    | tail => ([], tail)
  if whole.isEmpty && fraction.isEmpty then none
  else (readExponent rest).map fun exponent =>
    toDouble negative (valueOf (whole ++ fraction)) (exponent - fraction.length)

/-- Reads a numeral for a double. -/
def readDouble (cs : List Char) : Option Binary64 :=
  let (negative, body) := takeSign cs
  let name := String.ofList (body.map Char.toLower)
  if name = "inf" || name = "infinity" then some (.infinity negative)
  else if name = "nan" then some .nan
  else readSignificand negative body

end Blueprint.Decimal
