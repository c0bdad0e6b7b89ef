import Blueprint.Toml.Literal
import Blueprint.Toml.Table
import Blueprint.Toml.Text

/-!
# Read settings files

The table that a TOML text denotes, if the text is well-formed.
-/

namespace Blueprint.Toml

open Text (Reader)

/-! ## Keys -/

def isBareKeyChar (c : Char) : Bool := Ascii.isAlnum c || c = '_' || c = '-'

def readKey (cs : List Char) : Option (String × List Char) :=
  let bare := cs.takeWhile isBareKeyChar
  if bare.isEmpty then readLineText cs
  else some (String.ofList bare, cs.dropWhile isBareKeyChar)

/-- Reads so many keys at most, with points in between. -/
def readDotted : (most : Nat) → Reader (List String)
  | 0, _ => none
  | most + 1, cs => do
      let (key, rest) ← readKey (skipGap cs)
      match skipGap rest with
      | '.' :: rest =>
          let (others, rest) ← readDotted most rest
          return (key :: others, rest)
      | rest => return ([key], rest)

/-- The most keys in a path, and how deep arrays and tables may nest in a value. -/
def maxDepth : Nat := 80

def readPath : Reader (List String) := readDotted maxDepth

/-! ## Values -/

/-- Reads items with commas between and perhaps behind them, up to and including a
closing bracket. -/
def readItems {α : Type} (closing : Char) (item : Reader α) : (steps : Nat) → Reader (List α)
  | 0, _ => none
  | steps + 1, cs => do
      let cs ← skipBlank false cs
      match cs with
      | [] => none
      | c :: rest =>
          if c = closing then return ([], rest)
          else
            let (first, rest) ← item cs
            match ← skipBlank false rest with
            | c :: rest =>
                if c = closing then return ([first], rest)
                else if c = ',' then
                  let (others, rest) ← readItems closing item steps rest
                  return (first :: others, rest)
                else none
            | [] => none

/-- Reads keys, an equality sign and a value. What `skip` drops may stand around the
sign. -/
def readAssignment (skip : List Char → Option (List Char)) (value : Reader Toml) :
    Reader (List String × Toml) := fun cs => do
  let (path, rest) ← readPath cs
  match ← skip rest with
  | '=' :: rest =>
      let (given, rest) ← value (← skip rest)
      return ((path, given), rest)
  | _ => none

/-- The table that assignments make up. -/
def tableOf (assignments : List (List String × Toml)) : Option Toml := do
  let fields ← assignments.foldlM
    (fun fields (path, value) => Fields.assign true path value fields) []
  return .table (finishFields fields)

/-- Reads a value whose arrays and tables nest to a given depth. -/
def readNested : (depth : Nat) → Reader Toml
  | depth, cs =>
      match cs with
      | '[' :: rest =>
          match depth with
          | 0 => none
          | depth + 1 =>
              (readItems ']' (readNested depth) (rest.length + 1) rest).map
                fun (items, rest) => (.array items, rest)
      | '\x7b' :: rest =>
          match depth with
          | 0 => none
          | depth + 1 => do
              let (assignments, rest) ←
                readItems '\x7d' (readAssignment (skipBlank false) (readNested depth))
                  (rest.length + 1) rest
              return (← tableOf assignments, rest)
      | '\x22' :: _ | '\x27' :: _ => (readText cs).map fun (s, rest) => (.text s, rest)
      | cs => readLiteral cs

def readValue : Reader Toml := readNested maxDepth

/-! ## Lines -/

inductive Line
  | blank
  | table (path : List String)
  /-- A header in double brackets. -/
  | element (path : List String)
  | assignment (path : List String) (value : Toml)

/-- Reads what a line says, without its end. -/
def readStatement (cs : List Char) : Option (Line × List Char) :=
  match skipGap cs with
  | '[' :: '[' :: rest => do
      let (path, rest) ← readPath rest
      match rest with
      | ']' :: ']' :: rest => return (.element path, rest)
      | _ => none
  | '[' :: rest => do
      let (path, rest) ← readPath rest
      match rest with
      | ']' :: rest => return (.table path, rest)
      | _ => none
  | [] => some (.blank, [])
  | c :: rest =>
      if c = '#' || (afterNewline (c :: rest)).isSome then some (.blank, c :: rest)
      else (readAssignment (some ∘ skipGap) readValue (c :: rest)).map
        fun ((path, value), rest) => (.assignment path value, rest)

/-- Drops the end of a line: gaps, a comment, and a line end unless the text
ends. -/
def afterLine (cs : List Char) : Option (List Char) :=
  match skipComment (skipGap cs) with
  | [] => some []
  | rest => afterNewline rest

/-! ## Files -/

/-- What was read so far: the fields, and the path of the table that is open. -/
structure Progress where
  fields : Fields
  current : List String

def Progress.add (p : Progress) : Line → Option Progress
  | .blank => some p
  | .table path => (Fields.openAt Fields.openTable path p.fields).map (⟨·, path⟩)
  | .element path => (Fields.openAt Fields.openElement path p.fields).map (⟨·, path⟩)
  | .assignment path value =>
      (Fields.enter p.current (Fields.assign true path value) p.fields).map (⟨·, p.current⟩)

/-- Reads every line. Each takes at least one character. -/
def readLines : (steps : Nat) → Progress → List Char → Option Progress
  | 0, _, _ => none
  | _ + 1, p, [] => some p
  | steps + 1, p, cs => do
      let (line, rest) ← readStatement cs
      let rest ← afterLine rest
      let p ← p.add line
      readLines steps p rest

/-- The text without a byte order mark at its start. -/
def withoutMark : List Char → List Char
  | '\ufeff' :: cs => cs
  | cs => cs

def read? (s : String) : Option (List (String × Toml)) :=
  let cs := withoutMark s.toList
  (readLines (cs.length + 1) ⟨[], []⟩ cs).map fun p => finishFields p.fields

end Blueprint.Toml
