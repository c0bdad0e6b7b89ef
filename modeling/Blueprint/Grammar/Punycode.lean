import Blueprint.Number.Power

/-!
# Encoded labels

The decoding of the ASCII form of international domain name labels. A delta is
written in digits of base 36 whose weights shrink as the digits reach a threshold
that follows the deltas seen so far. No number in it takes more than 32 bits.
-/

namespace Blueprint.Grammar.Punycode

def digitValue (c : Char) : Option Nat :=
  if 'a' ≤ c && c ≤ 'z' then some (c.toNat - 'a'.toNat)
  else if 'A' ≤ c && c ≤ 'Z' then some (c.toNat - 'A'.toNat)
  else if '0' ≤ c && c ≤ '9' then some (c.toNat - '0'.toNat + 26)
  else none

/-- The threshold of the digit at a position, a multiple of 36. -/
def threshold (position bias : Nat) : Nat :=
  if position ≤ bias + 1 then 1
  else if bias + 26 ≤ position then 26
  else position - bias

/-- Divides a delta down below 456, counting positions. -/
def settle (delta position : Nat) : Nat :=
  if 455 < delta then settle (delta / 35) (position + 36)
  else position + 36 * delta / (delta + 38)
termination_by delta
decreasing_by omega

/-- The bias after a delta, given the number of characters so far. -/
def adapt (delta count : Nat) (isFirst : Bool) : Nat :=
  let delta := if isFirst then delta / 700 else delta / 2
  settle (delta + delta / count) 0

/-- Where the decoder stands: the characters so far, the next code point and
place, and the delta being read. -/
structure State where
  output : List Nat
  code : Nat
  place : Nat
  bias : Nat
  delta : Nat
  weight : Nat
  position : Nat

/-- The state after the characters that stand for themselves. -/
def start (basic : List Char) : State :=
  ⟨basic.map Char.toNat, 128, 0, 72, 0, 1, 36⟩

/-- Ends a delta: puts the character that it denotes into its place. -/
def place (s : State) : Option State :=
  let count := s.output.length + 1
  let target := s.place + s.delta
  let code := s.code + target / count
  let index := target % count
  if code.isValidChar then
    some ⟨s.output.take index ++ code :: s.output.drop index, code, index + 1,
      adapt s.delta count (s.place = 0), 0, 1, 36⟩
  else none

/-- Goes on to the next digit of a delta. -/
def advance (s : State) (limit : Nat) : Option State :=
  let weight := s.weight * (36 - limit)
  if weight < twoTo 32 then some { s with weight := weight, position := s.position + 36 }
  else none

/-- Reads a digit of a delta. -/
def readDigit (s : State) (c : Char) : Option State := do
  let digit ← digitValue c
  let s := { s with delta := s.delta + digit * s.weight }
  let limit := threshold s.position s.bias
  if twoTo 32 ≤ s.place + s.delta then none
  else if digit < limit then place s
  else advance s limit

/-- Reads deltas to the end. -/
def readDeltas (basic deltas : List Char) : Option (List Char) := do
  let s ← deltas.foldlM readDigit (start basic)
  if s.position = 36 then some (s.output.map Char.ofNat) else none

/-- Decodes a label without its mark: the characters up to the last hyphen stand
for themselves, the rest are deltas. A hyphen at the start ends nothing. -/
def decode (cs : List Char) : Option (List Char) :=
  let basic := (cs.reverse.dropWhile (· ≠ '-')).reverse.dropLast
  if basic.isEmpty then readDeltas [] cs
  else readDeltas basic (cs.drop (basic.length + 1))

end Blueprint.Grammar.Punycode
