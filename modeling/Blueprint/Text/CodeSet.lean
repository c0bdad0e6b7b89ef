import Blueprint.Number.Radix
import Blueprint.Text.Blank

/-!
# Sets of code points

A set of code points is a list of ranges, written as a text in hexadecimal digits:
`41-5A` is a range, `101/12F` every second code point of a range, and `AA` a single
code point.
-/

namespace Blueprint.Text

structure CodeRange where
  first : Nat
  last : Nat
  /-- The distance from one code point to the next. -/
  step : Nat

namespace CodeRange

def contains (r : CodeRange) (code : Nat) : Bool :=
  decide (r.first ≤ code) && decide (code ≤ r.last) && (code - r.first) % r.step == 0

def ofChars? (cs : List Char) : Option CodeRange := do
  let bounds ← (cs.splitOnP fun c => c = '-' || c = '/').mapM (Radix.valueIn 16)
  match bounds with
  | [code] => some ⟨code, code, 1⟩
  | [first, last] => some ⟨first, last, if cs.contains '/' then 2 else 1⟩
  | _ => none

end CodeRange

abbrev CodeSet := List CodeRange

namespace CodeSet

def contains (set : CodeSet) (c : Char) : Bool := set.any (·.contains c.toNat)

/-- The ranges that a text lists. -/
def ofText (s : String) : CodeSet := (pieces isBlank s.toList).filterMap CodeRange.ofChars?

end CodeSet

end Blueprint.Text
