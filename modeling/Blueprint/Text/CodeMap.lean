import Blueprint.Text.CodeSet

/-!
# Maps of code points

A map gives characters as the images of ranges of code points: `E0-F6>C0` moves a
range along with its first code point, `DF>53.53` gives a code point two characters,
and `AD>` gives it none.
-/

namespace Blueprint.Text

structure CodeRule where
  range : CodeRange
  /-- The image of the first code point. -/
  image : List Nat

namespace CodeRule

/-- The image of a code point of the range. An image of one code point moves along
with the range. -/
def imageOf (rule : CodeRule) (code : Nat) : List Nat :=
  match rule.image with
  | [start] => [start + (code - rule.range.first)]
  | image => image

def ofChars? (cs : List Char) : Option CodeRule := do
  match cs.splitOnP (· = '>') with
  | [range, image] =>
      let codes ← (pieces (· = '.') image).mapM (Radix.valueIn 16)
      return ⟨← CodeRange.ofChars? range, codes⟩
  | _ => none

end CodeRule

abbrev CodeMap := List CodeRule

namespace CodeMap

/-- The image of a character that the map knows. -/
def image? (map : CodeMap) (c : Char) : Option (List Char) :=
  (map.find? (·.range.contains c.toNat)).map fun rule =>
    (rule.imageOf c.toNat).map Char.ofNat

/-- The first character that the map gives an image. -/
def source? (map : CodeMap) (image : List Char) : Option Char :=
  (map.find? (·.image == image.map Char.toNat)).map fun rule => Char.ofNat rule.range.first

/-- The rules that a text lists. -/
def ofText (s : String) : CodeMap := (pieces isBlank s.toList).filterMap CodeRule.ofChars?

end CodeMap

end Blueprint.Text
