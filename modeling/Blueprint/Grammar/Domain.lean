import Blueprint.Grammar.Domain.Direction
import Blueprint.Grammar.Domain.Joiner
import Blueprint.Grammar.Domain.Mapping
import Blueprint.Grammar.Punycode
import Blueprint.Text.Join

/-!
# Domain names

A domain name is a row of labels with points in between. A label may hold characters
beyond ASCII, either as they are or encoded behind a mark.
-/

namespace Blueprint.Grammar.Domain

/-- ASCII characters that no domain name holds. -/
def isForbidden (c : Char) : Bool :=
  decide (c.toNat ≤ 0x20) || c.toNat = 0x7F ||
    ['%', '#', '/', ':', '<', '>', '?', '@', '[', '\x5c', ']', '^', '|'].contains c

def isAscii (c : Char) : Bool := decide (c.toNat < 128)

/-- The most characters of a label that is not ASCII, and those of its encoded form
behind the mark. -/
def maxPlain : Nat := 1000

def maxEncoded : Nat := 2000

/-- The characters before which an encoded label stands. -/
def encodingMark : List Char := ['x', 'n', '-', '-']

/-- Whether a decoded label is in the form that it would have taken unencoded. -/
def isFormed (label : List Char) : Bool :=
  label.all (fun c => isStable c && c ≠ '.') && Text.compose label == label

/-- The label that is encoded behind the mark. -/
def decode? (encoded : List Char) : Option (List Char) :=
  if encoded.isEmpty || !encoded.all isAscii || encoded.getLast? = some '-' ||
      maxEncoded < encoded.length then
    none
  else (Punycode.decode encoded).filter isFormed

/-- The label that a part of a domain name stands for. -/
def labelOf? (part : List Char) : Option (List Char) :=
  match Text.afterStart encodingMark part with
  | some encoded => decode? encoded
  | none => some part

/-- Whether a label may stand by itself. -/
def isLabel (label : List Char) : Bool :=
  (label.all isAscii || label.length ≤ maxPlain) && !label.any isForbidden &&
    !label.head?.any Text.isMark && areJoinersPlaced [] label

/-- Whether a domain name in its form is one. -/
def isDomain (domain : List Char) : Bool :=
  !domain.isEmpty &&
    match (domain.splitOnP (· = '.')).mapM labelOf? with
    | some labels => labels.all isLabel && areClear labels
    | none => false

end Blueprint.Grammar.Domain
