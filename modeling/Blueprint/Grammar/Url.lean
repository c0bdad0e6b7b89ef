import Blueprint.Grammar.Host

/-!
# Web addresses

Whether a text is an absolute web address, read as leniently as browsers do:
spaces around it, tabs and line ends inside it, backslashes for slashes, and any
number of slashes after the scheme are let pass.
-/

namespace Blueprint.Grammar.Url

/-- The text without control characters and spaces around it and without tabs
and line ends inside it. -/
def clean (cs : List Char) : List Char :=
  let outer (c : Char) : Bool := decide (c.toNat ≤ 0x20)
  let trimmed := ((cs.dropWhile outer).reverse.dropWhile outer).reverse
  trimmed.filter fun c => c ≠ '\x09' && c ≠ '\x0a' && c ≠ '\x0d'

def isSchemeChar (c : Char) : Bool := Ascii.isAlnum c || c = '+' || c = '-' || c = '.'

/-- The scheme in lower case and what follows its colon. -/
def scheme? (cs : List Char) : Option (String × List Char) :=
  match cs.takeWhile isSchemeChar, cs.dropWhile isSchemeChar with
  | first :: others, ':' :: rest =>
      if Ascii.isLetter first then
        some (String.ofList ((first :: others).map Char.toLower), rest)
      else none
  | _, _ => none

def isSlash (c : Char) : Bool := c = '/' || c = '\x5c'

/-- Whether a character ends the part of the address that names the host. -/
def endsAuthority (c : Char) : Bool := isSlash c || c = '?' || c = '#'

/-- The authority without user information, which ends at the last at sign.
There has to be something after an at sign. -/
def withoutUser (authority : List Char) : Option (List Char) :=
  if authority.contains '@' then
    let rest := (authority.reverse.takeWhile (· ≠ '@')).reverse
    if rest.isEmpty then none else some rest
  else some authority

/-- Splits the port off: at the first colon outside brackets. -/
def splitPort (inBrackets : Bool) : List Char → List Char × Option (List Char)
  | [] => ([], none)
  | c :: rest =>
      if c = ':' && !inBrackets then ([], some rest)
      else
        let inBrackets := if c = '[' then true else if c = ']' then false else inBrackets
        let (host, port) := splitPort inBrackets rest
        (c :: host, port)

/-- No digits, or a number of at most sixteen bits. -/
def isPort (cs : List Char) : Bool :=
  cs.all Ascii.isDigit &&
    (match Radix.valueIn 10 cs with
      | some value => decide (value ≤ 65535)
      | none => false)

def isAuthority (authority : List Char) : Bool :=
  match withoutUser authority with
  | none => false
  | some rest =>
      let (host, port) := splitPort false rest
      Host.isHost host && (match port with
        | none => true
        | some port => isPort port)

/-- Whether a text is empty or an absolute web address. -/
def isWebAddress (s : String) : Bool :=
  s.isEmpty ||
    match scheme? (clean s.toList) with
    | some (scheme, rest) =>
        (scheme = "http" || scheme = "https") &&
          isAuthority ((rest.dropWhile isSlash).takeWhile fun c => !endsAuthority c)
    | none => false

end Blueprint.Grammar.Url
