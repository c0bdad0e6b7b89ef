/-!
# ASCII classes

The classes of ASCII characters that names, tags and keys are made of.
-/

namespace Blueprint.Ascii

def isLower (c : Char) : Bool := 'a' ≤ c && c ≤ 'z'

def isUpper (c : Char) : Bool := 'A' ≤ c && c ≤ 'Z'

def isDigit (c : Char) : Bool := '0' ≤ c && c ≤ '9'

def isLetter (c : Char) : Bool := isLower c || isUpper c

def isAlnum (c : Char) : Bool := isLetter c || isDigit c

end Blueprint.Ascii
