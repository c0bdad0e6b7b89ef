import Blueprint.Grammar.Domain.MappingData
import Blueprint.Text.Composition

/-!
# Domain name mapping

The form that texts take in domain names: letters are small, variants of characters
become the plain ones, and what does not show is left out.
-/

namespace Blueprint.Grammar.Domain

/-- What a character becomes in a domain name, unless none holds it. -/
def mapChar (c : Char) : Option (List Char) :=
  if c.toNat < 128 then some [c.toLower]
  else
    match MappingData.images.image? c with
    | some image => some image
    | none => if MappingData.permitted.contains c then some [c] else none

/-- Whether a character stays what it is. -/
def isStable (c : Char) : Bool := mapChar c = some [c]

/-- What a text becomes in a domain name. -/
def mapText (cs : List Char) : Option (List Char) :=
  (cs.mapM mapChar).map fun forms => Text.compose forms.flatten

end Blueprint.Grammar.Domain
