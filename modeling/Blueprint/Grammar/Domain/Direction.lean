import Blueprint.Text.Mark

/-!
# Writing directions

A domain name with a character that is written from right to left is refused unless
the direction of each of its labels is clear from the label's first character and
kept up to its last.
-/

namespace Blueprint.Grammar.Domain

/-- The directions of characters, as far as they matter in a label. -/
inductive Direction
  | leftToRight
  | rightToLeft
  /-- A digit that is used in texts of both directions. -/
  | europeanNumber
  | arabicNumber
  /-- The direction of the character before. -/
  | mark
  /-- No direction: punctuation and symbols. -/
  | neutral
  deriving DecidableEq

namespace DirectionData

open Text

/-- Nonspacing marks with a direction of their own. -/
def leftToRightMarks : CodeSet := .ofText "
    CBF CC6 11A07-11A08 11C3F"

/-- The characters of the other directions; all others go from left to right. Ranges
run on over nonspacing marks and characters that domain names do not hold. -/
def classes : List (Direction × CodeSet) := [
  (.rightToLeft, .ofText "
      5BE-5F4 608 60B/60D 61B-64A 66D-6D5 6E5-6E6 6EE-6EF 6FA-7F5 7FA-8C9 FBB2-FBC2 FE73
      10800-1091B 10920-10B35 10B40-10D23 10D4A-10D4F 10D6F-10D8F 10E80-10EC7 10F00-10FF6
      1E800-1ED3D"),
  (.arabicNumber, .ofText "660-669 66B-66C 10D30-10D49 10E60-10E7E"),
  (.europeanNumber, .ofText "30-39 6F0-6F9 102E1-102FB"),
  (.neutral, .ofText "
      21-2F 3A-40 5B-60 7B-D7 F7 2B9-2BA 2C2-2CF 2D2-2ED 2EF-2FF 375 3F6 58A 58D-58F 606-607 609-60A
      60C 60E-60F 66A 6DE 6E9 7F6-7F9 9F2-9F3 9FB AF1 BF3-BFA C78-C7E E3F F3A-F3D 1390-1399 1400
      169B-169C 17DB 17F0-180A 1940-1945 19DE-19FF 200C-214D 218A-2335 237B-2394 2396-26AB
      26AD-27FF 2900-2BFF 2CE5-2CEA 2CF9-2CFF 2E00-3004 3008-3020 3030 3037 303D-303F 30A0 30FB
      31C0-31E5 4DC0-4DFF A490-A4C6 A60D-A60F A673-A67F A700-A721 A788 A828-A82B A838-A839
      A874-A877 AB6A-AB6B FBC3-FE46 10101 10140-1018C 10190-101A0 1091F 10B39-10B3F 10D6E
      10ED0-10ED8 11052-11065 11660-1166C 11FD5-11FF1 16FE2 1CC00-1CEF0 1D1E9-1D245 1D300-1D356
      1E2FF 1EEF0-1F12F 1F16D-1F16F 1F1AD 1F260-1FBFA")]

end DirectionData

namespace Direction

def ofChar (c : Char) : Direction :=
  if Text.isNonspacingMark c && !DirectionData.leftToRightMarks.contains c then mark
  else
    match DirectionData.classes.find? fun (_, set) => set.contains c with
    | some (direction, _) => direction
    | none => leftToRight

/-- Directions of characters that a label written from left to right may hold. -/
def fitsLeftToRight (d : Direction) : Bool := d ≠ rightToLeft && d ≠ arabicNumber

def fitsRightToLeft (d : Direction) : Bool := d ≠ leftToRight

/-- The directions of a label's characters without those of the marks at its end. -/
def withoutMarks (ds : List Direction) : List Direction :=
  (ds.reverse.dropWhile (· = mark)).reverse

/-- Whether a label's direction is clear from the directions of its characters. A
label from right to left does not have digits of both kinds. -/
def isClear (ds : List Direction) : Bool :=
  let last := (withoutMarks ds).getLast?
  match ds with
  | [] => true
  | leftToRight :: _ =>
      ds.all fitsLeftToRight && (last = some leftToRight || last = some europeanNumber)
  | rightToLeft :: _ =>
      ds.all fitsRightToLeft &&
        (last = some rightToLeft || last = some europeanNumber || last = some arabicNumber) &&
        !(ds.contains europeanNumber && ds.contains arabicNumber)
  | _ => false

end Direction

/-- Whether the labels of a domain name are clear in their directions, unless they all
go from left to right. -/
def areClear (labels : List (List Char)) : Bool :=
  let directions := labels.map fun label => label.map Direction.ofChar
  !directions.flatten.any (!·.fitsLeftToRight) || directions.all Direction.isClear

end Blueprint.Grammar.Domain
