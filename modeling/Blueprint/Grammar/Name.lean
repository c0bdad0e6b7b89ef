import Blueprint.Grammar.Ascii

/-!
# Names

Names of records and of DNS zones. A record name is a label that starts with a
lower-case letter; a zone name is a row of labels separated by points, each of
which may also use capitals and start with a digit.
-/

namespace Blueprint.Grammar

/-- The longest record name or zone label, in bytes. -/
def maxNameSize : Nat := 63

/-- The longest zone name, in bytes. -/
def maxZoneNameSize : Nat := 253

/-- Which labels are meant: those of record names or those of host names. -/
inductive LabelStyle
  | recordName
  | hostName
  deriving DecidableEq

namespace LabelStyle

def first : LabelStyle → Char → Bool
  | recordName => Ascii.isLower
  | hostName => Ascii.isAlnum

def inner : LabelStyle → Char → Bool
  | recordName => fun c => Ascii.isLower c || Ascii.isDigit c || c = '-'
  | hostName => fun c => Ascii.isAlnum c || c = '-'

end LabelStyle

/-- Whether characters form a label: not empty, started properly, made of
letters, digits and hyphens, and not ended by a hyphen. -/
def isLabel (style : LabelStyle) (cs : List Char) : Bool :=
  match cs.head?, cs.getLast? with
  | some first, some last => style.first first && last ≠ '-' && cs.all style.inner
  | _, _ => false

def isRecordName (name : String) : Bool :=
  isLabel .recordName name.toList && decide (name.utf8ByteSize ≤ maxNameSize)

/-- The parts of a text between points. -/
def dotted (cs : List Char) : List (List Char) := cs.splitOnP (· = '.')

/-- Whether characters form a label of a zone name. -/
def isZoneLabel (cs : List Char) : Bool :=
  isLabel .hostName cs && decide (cs.length ≤ maxNameSize)

def isZoneName (name : String) : Bool :=
  decide (name.utf8ByteSize ≤ maxZoneNameSize) && (dotted name.toList).all isZoneLabel

/-- Whether a name is in use by a sibling. A record does not compete with its
own stored name. -/
def isTaken (siblings : List String) (name : String) (editing : Option String) : Bool :=
  editing ≠ some name && siblings.contains name

/-- The pattern that users are shown for record names. -/
def namePattern : String := "^[a-z]([a-z0-9-]*[a-z0-9])?$"

/-- What to tell about a refused name. -/
def nameAdvice (name : String) (taken : Bool) : String :=
  if taken then "Name \"" ++ name ++ "\" already in use"
  else if maxNameSize < name.utf8ByteSize then
    "Name must be " ++ toString maxNameSize ++ " characters or fewer"
  else "Name must follow the regex pattern: " ++ namePattern

end Blueprint.Grammar
