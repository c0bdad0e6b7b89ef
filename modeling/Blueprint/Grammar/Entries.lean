import Blueprint.Grammar.Ascii
import Blueprint.Text.Join

/-!
# Listed values

Tags and cloud resource names, which are entered as lists, and the free text of
descriptions.
-/

namespace Blueprint.Grammar

def maxTagSize : Nat := 128

def maxTags : Nat := 100

/-- A letter, then letters, digits and `-_.:`, without a hyphen at the end. -/
def isTag (tag : String) : Bool :=
  match tag.toList with
  | [] => false
  | first :: rest =>
      Ascii.isLetter first && decide (tag.utf8ByteSize ≤ maxTagSize) &&
        rest.getLast? ≠ some '-' &&
        rest.all fun c => Ascii.isAlnum c || c = '-' || c = '_' || c = '.' || c = ':'

def areTags (tags : List String) : Bool :=
  decide (tags.length ≤ maxTags) && tags.all isTag

/-- The number of parts of a cloud resource name, between colons. -/
def resourceNameParts : Nat := 10

/-- A cloud resource name of the first version. -/
def isResourceName (crn : String) : Bool :=
  (Text.afterStart "crn:v1:".toList crn.toList).isSome &&
    (crn.toList.splitOnP (· = ':')).length = resourceNameParts

end Blueprint.Grammar
