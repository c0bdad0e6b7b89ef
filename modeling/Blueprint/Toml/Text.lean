import Blueprint.Number.Radix
import Blueprint.Text.Reader

/-!
# Texts of a settings file

Gaps and comments, and the four kinds of quoted texts: double quotes admit
escapes and single quotes do not, and three quotes admit line ends.
-/

namespace Blueprint.Toml

open Text (Reader)

def isGap (c : Char) : Bool := c = ' ' || c = '\x09'

def skipGap (cs : List Char) : List Char := cs.dropWhile isGap

/-- Whether a character may stand in a text or a comment: anything but a control
character, or a tab. -/
def isPlain (c : Char) : Bool := c = '\x09' || (0x20 ≤ c.toNat && c.toNat ≠ 0x7f)

/-- What follows a line end. -/
def afterNewline : List Char → Option (List Char)
  | '\n' :: rest => some rest
  | '\x0d' :: '\n' :: rest => some rest
  | _ => none

/-- Drops a comment up to the end of its line. -/
def skipComment : List Char → List Char
  | '#' :: rest => rest.dropWhile isPlain
  | cs => cs

/-- Drops gaps, line ends and comments. -/
def skipBlank (inComment : Bool) : List Char → Option (List Char)
  | [] => some []
  | '\n' :: rest => skipBlank false rest
  | '\x0d' :: '\n' :: rest => skipBlank false rest
  | c :: rest =>
      if inComment then (if isPlain c then skipBlank true rest else none)
      else if isGap c then skipBlank false rest
      else if c = '#' then skipBlank true rest
      else some (c :: rest)

/-! ## Escapes -/

/-- Reads a character by so many hexadecimal digits. -/
def readCode (digits : Nat) (cs : List Char) : Option (Char × List Char) := do
  let taken := cs.take digits
  if taken.length < digits then none
  else
    let code ← Radix.valueIn 16 taken
    if code.isValidChar then return (Char.ofNat code, cs.drop digits) else none

/-- The character that a one-letter escape stands for. -/
def escapedChar (c : Char) : Option Char :=
  if c = '\x22' || c = '\x5c' then some c
  else if c = 'b' then some '\x08'
  else if c = 'e' then some '\x1b'
  else if c = 'f' then some '\x0c'
  else if c = 'n' then some '\n'
  else if c = 'r' then some '\x0d'
  else if c = 't' then some '\x09'
  else none

/-- Reads an escape after its backslash. -/
def readEscape : Reader Char
  | 'x' :: cs => readCode 2 cs
  | 'u' :: cs => readCode 4 cs
  | 'U' :: cs => readCode 8 cs
  | c :: cs => (escapedChar c).map (·, cs)
  | [] => none

/-- Drops gaps and line ends. -/
def skipFolded : List Char → List Char
  | '\n' :: rest => skipFolded rest
  | '\x0d' :: '\n' :: rest => skipFolded rest
  | c :: rest => if isGap c then skipFolded rest else c :: rest
  | [] => []

/-- What follows a backslash at the end of a line, which joins the line with the
next one that is not blank. -/
def afterFold (cs : List Char) : Option (List Char) :=
  (afterNewline (skipGap cs)).map skipFolded

/-! ## Quoted texts -/

structure Quotation where
  quote : Char
  /-- Whether three quotes enclose the text. -/
  triple : Bool

namespace Quotation

def escapes (q : Quotation) : Bool := q.quote = '\x22'

/-- Reads up to and including the closing quotes. Up to two quotes before the
closing three belong to the text. Every step takes at least one character. -/
def readRest (q : Quotation) : (steps : Nat) → (read : List Char) → Reader String
  | 0, _, _ => none
  | _ + 1, _, [] => none
  | steps + 1, read, c :: rest =>
      if c = q.quote then
        if q.triple then
          let run := ((c :: rest).takeWhile (· = q.quote)).length
          if run < 3 then
            q.readRest steps (List.replicate run c ++ read) ((c :: rest).drop run)
          else
            let used := min run 5
            some (String.ofList (List.replicate (used - 3) c ++ read).reverse,
              (c :: rest).drop used)
        else some (String.ofList read.reverse, rest)
      else if c = '\x5c' && q.escapes then
        match if q.triple then afterFold rest else none with
        | some rest => q.readRest steps read rest
        | none => do
            let (c, rest) ← readEscape rest
            q.readRest steps (c :: read) rest
      else if isPlain c || (q.triple && (afterNewline (c :: rest)).isSome) then
        q.readRest steps (c :: read) rest
      else none

def read (q : Quotation) (cs : List Char) : Option (String × List Char) :=
  q.readRest (cs.length + 1) [] cs

end Quotation

/-- Reads a text in single or double quotes. -/
def readLineText : Reader String
  | '\x22' :: cs => Quotation.read ⟨'\x22', false⟩ cs
  | '\x27' :: cs => Quotation.read ⟨'\x27', false⟩ cs
  | _ => none

/-- Reads a text in quotes of any kind. A line end right after three opening
quotes does not count. -/
def readText : Reader String
  | '\x22' :: '\x22' :: '\x22' :: cs =>
      Quotation.read ⟨'\x22', true⟩ ((afterNewline cs).getD cs)
  | '\x27' :: '\x27' :: '\x27' :: cs =>
      Quotation.read ⟨'\x27', true⟩ ((afterNewline cs).getD cs)
  | cs => readLineText cs

end Blueprint.Toml
