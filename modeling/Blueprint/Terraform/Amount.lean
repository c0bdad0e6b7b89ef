import Blueprint.Number.Decimal
import Blueprint.Number.Power
import Blueprint.Text.Blank

/-!
# Amounts

Throughput is entered in megabytes per second and storage in gigabytes or
terabytes. Both are written as a number: megabytes per second and gigabytes.
-/

namespace Blueprint.Terraform

/-- Drops the units that reversed characters start with. -/
def dropThroughputUnits : List Char → List Char
  | 's' :: '/' :: 'B' :: 'M' :: rest => dropThroughputUnits rest
  | cs => cs

/-- A throughput without its unit. -/
def throughput (entered : String) : String :=
  let reversed := (Text.trimChars entered.toList).reverse
  String.ofList (Text.trimChars (dropThroughputUnits reversed).reverse)

/-- A number of 64 bits, which may have a plus sign in front. -/
def readAmount (cs : List Char) : Option Nat :=
  (Decimal.readUnsigned cs).filter (· < twoTo 64)

/-- The digits and the gigabytes in the unit of reversed characters. -/
def storageUnit : List Char → Option (List Char × Nat)
  | 'B' :: 'T' :: rest => some (rest.reverse, 1024)
  | 'B' :: 'G' :: rest => some (rest.reverse, 1)
  | _ => none

/-- A storage size in gigabytes. What is no size, or too large a one, is only
trimmed. -/
def storageSize (entered : String) : String :=
  let size := Text.trimChars entered.toList
  let gigabytes := do
    let (digits, factor) ← storageUnit size.reverse
    let amount ← readAmount (Text.trimChars digits)
    return amount * factor
  match gigabytes.filter (· < twoTo 64) with
  | some gigabytes => toString gigabytes
  | none => String.ofList size

end Blueprint.Terraform
