import Blueprint.Text.Blank
import Blueprint.Text.Join
import Blueprint.Text.LetterCase

/-!
# Displayed and stored forms

Condition operators and endpoint choices are stored in a compact form and shown
as phrases. Each form is made from the other word by word.
-/

namespace Blueprint.DisplayForm

/-- The ending of operators that do not tell letter case apart. -/
def ignoreCase : String := "_IGNORE_CASE"

def operatorWord (word : List Char) : String :=
  String.ofList (Text.capitalize (Text.lowerChars word))

/-- The words of an operator without its ending, capitalised. -/
def operatorWords (base : List Char) : List String :=
  (Text.pieces (· = '_') base).map operatorWord

/-- An operator as shown: `NOT_EQUALS_IGNORE_CASE` is `Not Equals (Ignore Case)`. -/
def operatorDisplay (stored : String) : String :=
  Text.join " " <|
    match Text.beforeEnding ignoreCase.toList stored.toList with
    | some base => operatorWords base ++ ["(Ignore Case)"]
    | none => operatorWords stored.toList

/-- An operator as stored: capitals, words joined by underscores, no brackets. -/
def operatorStored (display : String) : String :=
  let bare := display.toList.filter fun c => c ≠ '(' && c ≠ ')'
  Text.join "_" <|
    (Text.pieces Text.isBlank bare).map fun word => String.ofList (Text.upperChars word)

/-- Endpoints as stored: small letters, words joined by hyphens. -/
def endpointsStored (display : String) : String :=
  Text.join "-" <|
    (Text.pieces Text.isBlank (Text.lowerChars display.toList)).map String.ofList

def endpointsWord (word : List Char) : String :=
  if Text.sameLetters word "and".toList then "and"
  else String.ofList (Text.capitalize word)

/-- Endpoints as shown: `public-and-private` is `Public and Private`. -/
def endpointsDisplay (stored : String) : String :=
  Text.join " " <|
    (Text.pieces (fun c => c = '-' || c = ' ') stored.toList).map endpointsWord

end Blueprint.DisplayForm
