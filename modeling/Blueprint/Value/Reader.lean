import Blueprint.Number.Literal
import Blueprint.Number.Radix
import Blueprint.Text.Reader
import Blueprint.Value

/-!
# Read values

The value that a JSON text denotes. The grammar is the strict one: no comments,
no trailing commas, no unpaired surrogates, no control characters in texts, and
no literals beyond the doubles. Lists and objects nest to a given depth only.
A repeated field keeps its last value.
-/

namespace Blueprint.Value

open Text (Reader)

def isSpace (c : Char) : Bool :=
  c = ' ' || c = '\x09' || c = '\x0a' || c = '\x0d'

def skipSpace (cs : List Char) : List Char := cs.dropWhile isSpace

/-- Reads four hexadecimal digits. -/
def readUnit : Reader Nat
  | a :: b :: c :: d :: rest => (Radix.valueIn 16 [a, b, c, d]).map (·, rest)
  | _ => none

/-- The character for an escaped unit, which takes a second escaped unit if the
first is the high half of a pair. -/
def readEscapedUnit (cs : List Char) : Option (Char × List Char) := do
  let (high, rest) ← readUnit cs
  if 0xDC00 ≤ high && high ≤ 0xDFFF then none
  else if 0xD800 ≤ high && high ≤ 0xDBFF then
    match rest with
    | '\x5c' :: 'u' :: rest =>
        let (low, rest) ← readUnit rest
        if 0xDC00 ≤ low && low ≤ 0xDFFF then
          return (Char.ofNat (0x10000 + (high - 0xD800) * 0x400 + (low - 0xDC00)), rest)
        else none
    | _ => none
  else return (Char.ofNat high, rest)

/-- The character that a one-letter escape stands for. -/
def escapedChar (c : Char) : Option Char :=
  if c = '\x22' || c = '\x5c' || c = '/' then some c
  else if c = 'b' then some '\x08'
  else if c = 'f' then some '\x0c'
  else if c = 'n' then some '\x0a'
  else if c = 'r' then some '\x0d'
  else if c = 't' then some '\x09'
  else none

/-- Reads up to and including the closing quote. Every step takes at least one
character, so as many steps as there are characters suffice. -/
def readQuoted : (steps : Nat) → (read : List Char) → Reader String
  | 0, _, _ => none
  | _ + 1, _, [] => none
  | steps + 1, read, c :: rest =>
      if c = '\x22' then some (String.ofList read.reverse, rest)
      else if c = '\x5c' then
        match rest with
        | 'u' :: rest => do
            let (c, rest) ← readEscapedUnit rest
            readQuoted steps (c :: read) rest
        | e :: rest => do
            let c ← escapedChar e
            readQuoted steps (c :: read) rest
        | [] => none
      else if c.toNat < 0x20 then none
      else readQuoted steps (c :: read) rest

def readText (cs : List Char) : Option (String × List Char) :=
  readQuoted (cs.length + 1) [] cs

/-- Reads the digits of an exponent after its mark. -/
def readExponentPart (cs : List Char) : Option (Int × List Char) :=
  let (negative, cs) := Decimal.takeSign cs
  let digits := cs.takeWhile Decimal.isDigit
  if digits.isEmpty then none
  else
    let n : Int := Decimal.valueOf digits
    some (if negative then -n else n, cs.dropWhile Decimal.isDigit)

/-- Reads a number without its sign. -/
def readUnsignedNumber (negative : Bool) (cs : List Char) : Option (Number × List Char) := do
  let whole := cs.takeWhile Decimal.isDigit
  let rest := cs.dropWhile Decimal.isDigit
  let wellFormed := match whole with
    | [] => false
    | ['0'] => true
    | c :: _ => c ≠ '0'
  if !wellFormed then none
  else
    let (fraction, rest) ← (match rest with
      | '.' :: tail =>
          let fraction := tail.takeWhile Decimal.isDigit
          if fraction.isEmpty then none
          else some (some fraction, tail.dropWhile Decimal.isDigit)
      | _ => some (none, rest))
    let (exponent, rest) ← (match rest with
      | 'e' :: tail | 'E' :: tail =>
          (readExponentPart tail).map fun (exponent, rest) => (some exponent, rest)
      | _ => some (none, rest))
    let integer :=
      if fraction.isNone && exponent.isNone then Literal.toInteger? negative whole else none
    match integer with
    | some n => return (.integer n, rest)
    | none =>
        let x ← Literal.toDouble? negative whole (fraction.getD []) (exponent.getD 0)
        return (.double x, rest)

def readNumber : Reader Number
  | '-' :: cs => readUnsignedNumber true cs
  | cs => readUnsignedNumber false cs

/-- Reads entries separated by commas up to a closing bracket, after the first
entry's place. -/
def readEntries {α : Type} (closing : Char) (entry : Reader α) : (steps : Nat) → Reader (List α)
  | 0, _ => none
  | steps + 1, cs => do
      let (first, rest) ← entry (skipSpace cs)
      match skipSpace rest with
      | c :: rest =>
          if c = closing then return ([first], rest)
          else if c = ',' then
            let (others, rest) ← readEntries closing entry steps rest
            return (first :: others, rest)
          else none
      | [] => none

/-- Reads entries between brackets, after the opening one. -/
def readBracketed {α : Type} (closing : Char) (entry : Reader α) : Reader (List α) :=
  fun cs =>
    match skipSpace cs with
    | c :: rest =>
        if c = closing then some ([], rest)
        else readEntries closing entry (cs.length + 1) (c :: rest)
    | [] => none

/-- Reads a field name, a colon and a value. -/
def readField (value : Reader Value) : Reader (String × Value)
  | '\x22' :: cs => do
      let (key, rest) ← readText cs
      match skipSpace rest with
      | ':' :: rest =>
          let (item, rest) ← value (skipSpace rest)
          return ((key, item), rest)
      | _ => none
  | _ => none

/-- Reads a value whose lists and objects nest to a given depth. -/
def readNested : (depth : Nat) → Reader Value
  | depth, cs =>
      match cs with
      | 'n' :: 'u' :: 'l' :: 'l' :: rest => some (.null, rest)
      | 't' :: 'r' :: 'u' :: 'e' :: rest => some (.bool true, rest)
      | 'f' :: 'a' :: 'l' :: 's' :: 'e' :: rest => some (.bool false, rest)
      | '\x22' :: rest => (readText rest).map fun (s, rest) => (.text s, rest)
      | '[' :: rest =>
          match depth with
          | 0 => none
          | depth + 1 =>
              (readBracketed ']' (readNested depth) rest).map
                fun (items, rest) => (.list items, rest)
      | '\x7b' :: rest =>
          match depth with
          | 0 => none
          | depth + 1 =>
              (readBracketed '\x7d' (readField (readNested depth)) rest).map
                fun (fields, rest) => (.object (Record.ofFields fields), rest)
      | cs => (readNumber cs).map fun (n, rest) => (.number n, rest)

/-- Reads a whole text as one value. -/
def read? (depth : Nat) (text : String) : Option Value := do
  let (value, rest) ← readNested depth (skipSpace text.toList)
  if (skipSpace rest).isEmpty then some value else none

end Blueprint.Value
