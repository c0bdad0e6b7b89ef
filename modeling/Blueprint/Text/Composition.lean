import Blueprint.Text.CompositionData

/-!
# Composition

Characters in the canonical order of their marks and composed where they can be.
Texts that look the same then are the same. A character that decomposes and is never
composed again stands for itself here.
-/

namespace Blueprint.Text

/-- The combining class of a character; an ASCII character does not combine. -/
def combiningClass (c : Char) : Nat :=
  if c.toNat < 128 then 0
  else
    match CompositionData.classes.find? fun (_, set) => set.contains c with
    | some (order, _) => order
    | none => 0

/-! ## Hangul syllables

A syllable consists of one of 19 leading consonants, one of 21 vowels, and perhaps one
of 27 trailing consonants; the syllables stand in the order of their letters. -/

namespace Hangul

def firstSyllable : Nat := 0xAC00
def firstLead : Nat := 0x1100
def firstVowel : Nat := 0x1161
/-- The code point before the first trailing consonant. -/
def noTrail : Nat := 0x11A7

def leads : Nat := 19
def vowels : Nat := 21
/-- The trailing consonants, and none. -/
def trails : Nat := 28

def isSyllable (code : Nat) : Bool :=
  decide (firstSyllable ≤ code) && decide (code < firstSyllable + leads * vowels * trails)

/-- The letters of a syllable. -/
def letters? (code : Nat) : Option (List Nat) :=
  if isSyllable code then
    let index := code - firstSyllable
    let trail := index % trails
    some ([firstLead + index / (vowels * trails), firstVowel + index / trails % vowels] ++
      (if trail = 0 then [] else [noTrail + trail]))
  else none

/-- The syllable that a letter makes of the letters before it. -/
def syllable? (before letter : Nat) : Option Nat :=
  if firstLead ≤ before ∧ before < firstLead + leads ∧
      firstVowel ≤ letter ∧ letter < firstVowel + vowels then
    some (firstSyllable + ((before - firstLead) * vowels + (letter - firstVowel)) * trails)
  else if isSyllable before ∧ (before - firstSyllable) % trails = 0 ∧
      noTrail < letter ∧ letter < noTrail + trails then
    some (before + (letter - noTrail))
  else none

end Hangul

/-! ## Decomposing -/

/-- How often a character decomposes at most. -/
def maxDecompositions : Nat := 3

/-- The characters that a character is composed of. Of two parts only the first one
decomposes again. -/
def partsOf : (steps : Nat) → Char → List Char
  | 0, c => [c]
  | steps + 1, c =>
      match CompositionData.pairs.image? c with
      | some (first :: rest) => partsOf steps first ++ rest
      | _ => [c]

def decompose (c : Char) : List Char :=
  if c.toNat < 128 then [c]
  else
    match Hangul.letters? c.toNat with
    | some codes => codes.map Char.ofNat
    | none => partsOf maxDecompositions c

/-- Characters with their combining classes. -/
abbrev Classed := List (Char × Nat)

/-- Puts a mark before marks in order, behind those of lower classes. -/
def insertMark (mark : Char × Nat) : Classed → Classed
  | [] => [mark]
  | next :: rest =>
      if 0 < next.2 && next.2 < mark.2 then next :: insertMark mark rest
      else mark :: next :: rest

/-- Puts the marks after each character in the order of their classes. -/
def sortMarks (cs : Classed) : Classed := cs.foldr insertMark []

/-! ## Composing -/

/-- The character that is composed of two. -/
def composite? (a b : Char) : Option Char :=
  if b.toNat < 128 then none
  else
    match Hangul.syllable? a.toNat b.toNat with
    | some code => some (Char.ofNat code)
    | none => CompositionData.pairs.source? [a, b]

/-- Composes the characters after `base`; `held` are the marks between them, the last
one first. A mark of a class no higher than the one before it stays where it is. -/
def composeFrom (base : Char) (held : Classed) : Classed → List Char
  | [] => base :: held.reverse.map Prod.fst
  | (c, order) :: rest =>
      let free := match held with
        | [] => true
        | (_, last) :: _ => decide (last < order)
      match if free then composite? base c else none with
      | some whole => composeFrom whole held rest
      | none =>
          if order = 0 then base :: (held.reverse.map Prod.fst ++ composeFrom c [] rest)
          else composeFrom base ((c, order) :: held) rest

def composeSorted : Classed → List Char
  | [] => []
  | (c, _) :: rest => composeFrom c [] rest

def compose (cs : List Char) : List Char :=
  composeSorted (sortMarks ((cs.flatMap decompose).map fun c => (c, combiningClass c)))

end Blueprint.Text
