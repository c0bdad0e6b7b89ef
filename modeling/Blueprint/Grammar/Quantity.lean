import Blueprint.Context
import Blueprint.Number.Decimal
import Blueprint.Text.Blank
import Blueprint.Value

/-!
# Quantities

Numeric form input, which is a number or the text of one. Nothing entered is
never wrong here; whether a field must be filled is another matter.
-/

namespace Blueprint

namespace Value

/-- The number that a value denotes, if it is finite: a number itself, or the
numeral in a text, trimmed. -/
def quantity? : Value → Option Binary64
  | .number n => some n.toDouble
  | .text s => (Decimal.readDouble (Text.trimChars s.toList)).filter Binary64.isFinite
  | _ => none

def isWholeQuantity (v : Value) : Bool :=
  match v.quantity? with
  | some x => x.isWhole
  | none => false

/-- Whether a value denotes a number so near to zero that it counts as zero. -/
def isZeroQuantity (v : Value) : Bool :=
  match v.quantity? with
  | some x => x.isNegligible
  | none => false

end Value

namespace Limits

/-- Whether a double lies within the limits, themselves taken as doubles. -/
def admits (limits : Limits) (x : Binary64) : Bool :=
  (Binary64.ofInt limits.min).le x && x.le (Binary64.ofInt limits.max)

/-- Whether a value is nothing or a whole quantity within the limits. -/
def accepts (limits : Limits) : Option Value → Bool
  | none => true
  | some v => v.isBlank || (v.isWholeQuantity &&
      match v.quantity? with
      | some x => limits.admits x
      | none => false)

/-- What to tell about a quantity beyond the limits. -/
def advice (limits : Limits) : String :=
  "Must be a whole number between " ++ toString limits.min ++ " and " ++ toString limits.max

end Limits

end Blueprint
