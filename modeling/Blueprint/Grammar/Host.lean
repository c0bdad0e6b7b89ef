import Blueprint.Grammar.Ascii
import Blueprint.Grammar.Domain
import Blueprint.Number.Power
import Blueprint.Number.Radix

/-!
# Hosts

The hosts that a web address may name: addresses of the two internet protocols
and domain names. A domain name whose last part looks like a number has to be an
address of the older protocol, whose parts may be octal or hexadecimal and may
be fewer than four.
-/

namespace Blueprint.Grammar.Host

open Radix

/-! ## Numbers in the last part of a name -/

/-- The number that a part of a numeric host spells, its base told by its
beginning. -/
def partValue : List Char → Option Nat
  | [] => none
  | '0' :: 'x' :: cs | '0' :: 'X' :: cs => valueIn 16 cs
  | '0' :: c :: cs => valueIn 8 (c :: cs)
  | cs => valueIn 10 cs

/-- The parts of a domain without an empty one at the end. -/
def partsOf (domain : List Char) : List (List Char) :=
  let parts := domain.splitOnP (· = '.')
  if parts.getLast? = some [] ∧ 1 < parts.length then parts.dropLast else parts

/-- Whether the last part of a domain is all digits or spells a number. -/
def endsInNumber (domain : List Char) : Bool :=
  match (partsOf domain).getLast? with
  | none => false
  | some part => (!part.isEmpty && part.all Ascii.isDigit) || (partValue part).isSome

/-- Whether the parts of a domain spell an address: octets, and at the end a
number that fills the rest of the four bytes. -/
def isNumericAddress (domain : List Char) : Bool :=
  let parts := partsOf domain
  match parts.mapM partValue with
  | none => false
  | some values =>
      decide (values.length ≤ 4) && values.dropLast.all (· ≤ 255) &&
        (match values.getLast? with
          | some last => decide (last < twoTo (8 * (5 - values.length)))
          | none => false)

/-! ## Addresses in brackets -/

/-- An octet in the address of the older protocol at the end of one of the newer
protocol. -/
def isPlainOctet (cs : List Char) : Bool :=
  !cs.isEmpty && cs.all Ascii.isDigit && (cs.length = 1 || cs.head? ≠ some '0') &&
    (match valueIn 10 cs with
      | some value => decide (value ≤ 255)
      | none => false)

def isPlainAddress (cs : List Char) : Bool :=
  let parts := cs.splitOnP (· = '.')
  parts.length = 4 && parts.all isPlainOctet

def isGroup (cs : List Char) : Bool :=
  !cs.isEmpty && decide (cs.length ≤ 4) && cs.all fun c => (hexValue c).isSome

/-- The number of groups in a row of groups separated by colons, the last two of
which may be written as an address of the older protocol. -/
def countGroups (mayEndPlain : Bool) (cs : List Char) : Option Nat :=
  if cs.isEmpty then some 0
  else
    let parts := cs.splitOnP (· = ':')
    match parts.getLast? with
    | none => none
    | some last =>
        if parts.all isGroup then some parts.length
        else if mayEndPlain && parts.dropLast.all isGroup && isPlainAddress last then
          some (parts.length + 1)
        else none

/-- Splits at the first double colon. -/
def splitGap : List Char → Option (List Char × List Char)
  | ':' :: ':' :: rest => some ([], rest)
  | c :: rest => (splitGap rest).map fun (before, after) => (c :: before, after)
  | [] => none

/-- Eight groups, or fewer with one gap written as a double colon. -/
def isGroupedAddress (cs : List Char) : Bool :=
  match splitGap cs with
  | none => countGroups true cs = some 8
  | some (before, after) =>
      match countGroups false before, countGroups true after with
      | some a, some b => decide (a + b ≤ 7)
      | _, _ => false

/-- Whether a domain name is one, and an address if it has to be. -/
def isName (domain : List Char) : Bool :=
  Domain.isDomain domain && (!endsInNumber domain || isNumericAddress domain)

/-! ## Hosts as written -/

/-- The bytes that percent signs followed by two hexadecimal digits stand for,
all other bytes standing for themselves. -/
def unescape : List UInt8 → List UInt8
  | [] => []
  | [a] => [a]
  | [a, b] => [a, b]
  | a :: b :: c :: rest =>
      if a = 0x25 then
        match hexValue (Char.ofNat b.toNat), hexValue (Char.ofNat c.toNat) with
        | some high, some low => UInt8.ofNat (16 * high + low) :: unescape rest
        | _, _ => a :: unescape (b :: c :: rest)
      else a :: unescape (b :: c :: rest)

/-- Whether a host as written in a web address is acceptable. -/
def isHost (cs : List Char) : Bool :=
  match cs with
  | [] => false
  | '[' :: rest =>
      rest.getLast? = some ']' && isGroupedAddress rest.dropLast
  | cs =>
      let bytes := unescape (String.ofList cs).toUTF8.toList
      match String.fromUTF8? ⟨bytes.toArray⟩ with
      | some domain => (Domain.mapText domain.toList).any isName
      | none => false

end Blueprint.Grammar.Host
