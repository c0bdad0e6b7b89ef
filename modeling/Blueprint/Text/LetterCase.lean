import Blueprint.Text.CaseData
import Blueprint.Text.CaseClass

/-!
# Letter case

Upper and lower case of characters and of texts. One character may become
several, and a capital sigma that ends a word becomes the final small sigma.
-/

namespace Blueprint.Text

/-- The upper case of a character. -/
def upper (c : Char) : List Char :=
  if c.toNat < 128 then [c.toUpper] else (CaseData.upper.image? c).getD [c]

/-- The lower case of a character standing alone. -/
def lower (c : Char) : List Char :=
  if c.toNat < 128 then [c.toLower] else (CaseData.lower.image? c).getD [c]

def isCased (c : Char) : Bool := CaseData.cased.contains c

def isCaseIgnorable (c : Char) : Bool := CaseData.ignorable.contains c

/-- Whether the first character that is not case-ignorable is cased. -/
def facesCased (cs : List Char) : Bool :=
  match cs.dropWhile isCaseIgnorable with
  | [] => false
  | c :: _ => isCased c

/-- Lower case of the characters after `before`, which is kept in reverse. A
capital sigma between a cased letter and a word's end takes its final form. -/
def lowerAfter (before : List Char) : List Char → List Char
  | [] => []
  | c :: rest =>
      let image :=
        if c = 'Σ' then
          [if facesCased before && !facesCased rest then 'ς' else 'σ']
        else lower c
      image ++ lowerAfter (c :: before) rest

def lowerChars (cs : List Char) : List Char := lowerAfter [] cs

def upperChars (cs : List Char) : List Char := cs.flatMap upper

/-- Upper case for the first character alone. -/
def capitalize : List Char → List Char
  | [] => []
  | c :: rest => upper c ++ rest

/-- Upper case for the first character, lower case for each of the others. -/
def titleChars : List Char → List Char
  | [] => []
  | c :: rest => upper c ++ rest.flatMap lower

/-- Equality up to the case of ASCII letters. -/
def sameLetters (a b : List Char) : Bool :=
  a.map Char.toLower == b.map Char.toLower

end Blueprint.Text
