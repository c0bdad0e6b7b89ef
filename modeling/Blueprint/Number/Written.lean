import Blueprint.Number.Shortest

/-!
# Written doubles

The text of a finite double: its shortest decimal, with a point and at least one
digit after it, from a hundred-thousandth up to ten million billions, and with a
signed exponent outside these bounds.
-/

namespace Blueprint.Binary64

/-- Leading decimal exponents of the doubles written without an exponent. -/
def positional (exponent : Int) : Bool := decide (-5 ≤ exponent) && decide (exponent < 16)

/-- A decimal in positional notation. -/
def plainText (digits : List Char) (exponent : Int) : List Char :=
  let point := digits.length + exponent
  if point ≤ 0 then
    '0' :: '.' :: (List.replicate (-point).toNat '0' ++ digits)
  else if 0 ≤ exponent then
    digits ++ List.replicate exponent.toNat '0' ++ ['.', '0']
  else
    digits.take point.toNat ++ '.' :: digits.drop point.toNat

/-- A decimal with one digit before the point and an exponent. -/
def scientificText (digits : List Char) (leading : Int) : List Char :=
  let fraction := match digits.drop 1 with
    | [] => []
    | rest => '.' :: rest
  let sign := if leading < 0 then '-' else '+'
  digits.take 1 ++ fraction ++ 'e' :: sign :: Nat.toDigits 10 leading.natAbs

/-- The text of a finite double. -/
def written (x : Binary64) : String :=
  let body :=
    if x.magnitude = 0 then ['0', '.', '0']
    else
      let shortest := Shortest.shortest x.magnitude
      let digits := Nat.toDigits 10 shortest.digits
      let leading := shortest.exponent + digits.length - 1
      if positional leading then plainText digits shortest.exponent
      else scientificText digits leading
  String.ofList (if x.isNegative then '-' :: body else body)

end Blueprint.Binary64
