import Blueprint.Grammar.Ascii
import Blueprint.Number.Decimal
import Blueprint.Number.Radix
import Blueprint.Toml
import Blueprint.Toml.Text

/-!
# Literals of a settings file

Values without quotes: truth values, integers of four bases, fractional numbers,
and points in time, of which a date alone and a time alone are two kinds.

An integer is known by its outline, and only a use of it asks for its number. So
one may have an outline and no number, such as the mark of a base without digits.
-/

namespace Blueprint.Toml

/-! ## Groups of digits -/

/-- The characters between underscores. -/
def groups (cs : List Char) : List (List Char) := cs.splitOnP (· = '_')

/-- Digits with an underscore between two of them here and there. -/
def ungroup (isDigit : Char → Bool) (cs : List Char) : Option (List Char) :=
  if (groups cs).all fun group => !group.isEmpty && group.all isDigit then
    some (groups cs).flatten
  else none

/-- Decimal digits without leading zeros. -/
def decimalDigits (cs : List Char) : Option (List Char) :=
  (ungroup Ascii.isDigit cs).filter fun digits => digits.length = 1 || digits.head? ≠ some '0'

/-- Whether every group ends with a digit if another follows, and begins with one
if another precedes. -/
def areJoined (isDigit : Char → Bool) : List (List Char) → Bool
  | group :: next :: rest =>
      group.getLast?.any isDigit && next.head?.any isDigit && areJoined isDigit (next :: rest)
  | _ => true

/-! ## Numbers -/

def isHexDigit (c : Char) : Bool := (Radix.hexValue c).isSome

def isFractionMark (c : Char) : Bool := c = '.' || c = 'e' || c = 'E'

/-- What follows an underscore between a sign and the digits. -/
def afterSignGap : List Char → Option (List Char)
  | '+' :: '_' :: cs => some cs
  | '-' :: '_' :: cs => some cs
  | _ => none

/-- An integer in a base that its beginning tells. -/
def inBase (base : Nat) (cs : List Char) : Option (Option Int) :=
  if cs.isEmpty then some none
  else (ungroup (fun c => (Radix.digitBelow base c).isSome) cs).map fun digits =>
    (Radix.valueIn base digits).map Int.ofNat

/-- Whether characters have the outline of an integer in base ten. Up to the first
underscore they are decimal digits without a leading zero; around an underscore
they are digits of any base. After a sign an underscore may come first. -/
def hasDecimalOutline (cs : List Char) : Bool :=
  let body := (Decimal.takeSign cs).2
  !cs.any isFractionMark &&
    match afterSignGap cs with
    | some rest => rest.head?.any isHexDigit && areJoined isHexDigit (groups rest)
    | none =>
        match groups body with
        | [] => false
        | first :: _ =>
            !first.isEmpty && first.all Ascii.isDigit && areJoined isHexDigit (groups body) &&
              (body = ['0'] || first.head? ≠ some '0')

/-- The number that an optional sign and decimal digits make, if nothing else but
underscores is among them. -/
def decimalValue (cs : List Char) : Option Int :=
  let (negative, body) := Decimal.takeSign cs
  (Decimal.readNat (groups body).flatten).map fun n => if negative then -(n : Int) else n

/-- The number of an integer, which may be missing. -/
def integer? : List Char → Option (Option Int)
  | '0' :: 'x' :: cs => inBase 16 cs
  | '0' :: 'o' :: cs => inBase 8 cs
  | '0' :: 'b' :: cs => inBase 2 cs
  | cs => if hasDecimalOutline cs then some (decimalValue cs) else none

/-- Splits characters at the first one that satisfies `p`. -/
def cut (p : Char → Bool) (cs : List Char) : List Char × Option (Char × List Char) :=
  match cs.dropWhile (!p ·) with
  | [] => (cs, none)
  | c :: rest => (cs.takeWhile (!p ·), some (c, rest))

/-- Whether characters are digits, possibly grouped, after an optional sign. -/
def isExponent (cs : List Char) : Bool :=
  (ungroup Ascii.isDigit (Decimal.takeSign cs).2).isSome

/-- Whether characters are the whole part of a fractional number. An underscore
after a sign lets leading zeros pass. -/
def isWhole (cs : List Char) : Bool :=
  match afterSignGap cs with
  | some rest => (ungroup Ascii.isDigit rest).isSome
  | none => (decimalDigits (Decimal.takeSign cs).2).isSome

/-- Whether characters are a number with a fraction, an exponent or both, or a
name of a number that has no digits. -/
def isFractional (cs : List Char) : Bool :=
  let body := (Decimal.takeSign cs).2
  let (significand, exponent) := cut (fun c => c = 'e' || c = 'E') cs
  let (whole, fraction) := cut (· = '.') significand
  body = "inf".toList || body = "nan".toList ||
    ((exponent.isSome || fraction.isSome) && isWhole whole &&
      fraction.all (fun (_, digits) => (ungroup Ascii.isDigit digits).isSome) &&
      exponent.all (fun (_, digits) => isExponent digits))

/-! ## Points in time -/

/-- The number of so many digits. -/
def fixedNumber (size : Nat) (cs : List Char) : Option Nat :=
  if cs.length = size then Decimal.readNat cs else none

/-- Whether characters are a number of two digits within limits. -/
def isTwoDigits (lowest highest : Nat) (cs : List Char) : Bool :=
  (fixedNumber 2 cs).any fun n => decide (lowest ≤ n) && decide (n ≤ highest)

def isLeapYear (year : Nat) : Bool :=
  year % 4 == 0 && (year % 100 != 0 || year % 400 == 0)

def daysIn (year month : Nat) : Nat :=
  if month = 2 then (if isLeapYear year then 29 else 28)
  else if month = 4 || month = 6 || month = 9 || month = 11 then 30
  else 31

/-- Whether characters are a year, a month and a day. -/
def isDate (cs : List Char) : Bool :=
  match cs.splitOnP (· = '-') with
  | [year, month, day] =>
      match fixedNumber 4 year, fixedNumber 2 month with
      | some y, some m =>
          decide (1 ≤ m) && decide (m ≤ 12) && isTwoDigits 1 (daysIn y m) day
      | _, _ => false
  | _ => false

/-- Whether characters are seconds with an optional fraction. -/
def areSeconds (cs : List Char) : Bool :=
  let (whole, fraction) := cut (· = '.') cs
  isTwoDigits 0 60 whole &&
    fraction.all fun (_, digits) => (Decimal.readNat digits).isSome

/-- Whether characters are an hour and a minute, and perhaps seconds. -/
def isTime (cs : List Char) : Bool :=
  match cs.splitOnP (· = ':') with
  | [hour, minute] => isTwoDigits 0 23 hour && isTwoDigits 0 59 minute
  | [hour, minute, seconds] =>
      isTwoDigits 0 23 hour && isTwoDigits 0 59 minute && areSeconds seconds
  | _ => false

/-- Whether characters are a time and perhaps its distance from universal time. -/
def isZonedTime (cs : List Char) : Bool :=
  match cut (fun c => c = 'Z' || c = 'z' || c = '+' || c = '-') cs with
  | (time, none) => isTime time
  | (time, some (mark, rest)) =>
      isTime time &&
        if mark = '+' || mark = '-' then
          match rest.splitOnP (· = ':') with
          | [hour, minute] => isTwoDigits 0 23 hour && isTwoDigits 0 59 minute
          | _ => false
        else rest.isEmpty

def isMoment (cs : List Char) : Bool :=
  isDate cs || isTime cs ||
    (isDate (cs.take 10) &&
      match cs.drop 10 with
      | mark :: time => (mark = 'T' || mark = 't' || mark = ' ') && isZonedTime time
      | [] => false)

/-! ## All literals -/

/-- Whether a literal ends before a character: a gap, a line end, or a mark of
comments, assignments, arrays and tables. -/
def endsLiteral (c : Char) : Bool :=
  isGap c || "\n\x0d#=,[]\x7b\x7d".toList.contains c

/-- Reads the characters of a literal. A gap may stand between a date and a
time. -/
def readRun (cs : List Char) : List Char × List Char :=
  let run := cs.takeWhile (!endsLiteral ·)
  let rest := cs.dropWhile (!endsLiteral ·)
  match rest with
  | ' ' :: c :: more =>
      if isDate run && Ascii.isDigit c then
        (run ++ ' ' :: (c :: more).takeWhile (!endsLiteral ·),
          (c :: more).dropWhile (!endsLiteral ·))
      else (run, rest)
  | _ => (run, rest)

/-- The value of a literal. -/
def literal? (run : List Char) : Option Toml :=
  if run = "true".toList then some (.bool true)
  else if run = "false".toList then some (.bool false)
  else if isFractional run then some (.fractional (String.ofList run))
  else if isMoment run then some (.moment (String.ofList run))
  else (integer? run).map .integer

def readLiteral : Text.Reader Toml := fun cs =>
  let (run, rest) := readRun cs
  (literal? run).map (·, rest)

end Blueprint.Toml
