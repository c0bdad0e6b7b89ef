import Blueprint.Grammar.Ascii
import Blueprint.Text.Blank
import Blueprint.Text.Join
import Blueprint.Text.LetterCase

/-!
# Naming

The forms in which a document writes names: labels, whose words are small ASCII
letters and digits with one separator between two words, and titles.
-/

namespace Blueprint.Terraform

/-! ## Labels -/

/-- Small letters and digits, with a separator in place of what is passed over
between two of them. `gap` tells whether something was passed over. -/
def separate (separator : Char) (gap : Bool) : List Char → List Char
  | [] => []
  | c :: rest =>
      if Ascii.isAlnum c then
        if gap then separator :: c.toLower :: separate separator false rest
        else c.toLower :: separate separator false rest
      else separate separator true rest

/-- A name as a label: nothing stands before the first word or after the last. -/
def separated (separator : Char) (name : String) : String :=
  String.ofList (separate separator false (name.toList.dropWhile (!Ascii.isAlnum ·)))

def snakeCase (name : String) : String := separated '_' name

def kebabCase (name : String) : String := separated '-' name

/-! ## Titles -/

/-- Words that a title writes in capitals. -/
def acronyms : List String := ["IAM", "VPC", "VPE", "SSH", "VSI", "VPN", "DNS", "F5", "IBM"]

def wordInTitle (word : List Char) : String :=
  if Text.sameLetters word "and".toList then "and"
  else
    match acronyms.find? fun acronym => Text.sameLetters acronym.toList word with
    | some acronym => acronym
    | none => String.ofList (Text.titleChars word)

/-- A name as a title: its words with capitals, a space between two of them. -/
def titleCase (name : String) : String :=
  Text.join " " <|
    (Text.pieces (fun c => c = '-' || c = '_' || c = ' ') name.toList).map wordInTitle

end Blueprint.Terraform
