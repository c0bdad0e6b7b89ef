import Blueprint.Grammar.Ascii
import Blueprint.Text.Blank

/-!
# Descriptions and public keys

The free text that describes a record, and the text of an SSH public key.
-/

namespace Blueprint.Grammar

def maxDescriptionSize : Nat := 128

/-- A letter, then letters, digits, white space and `-._,`. Nothing at all is a
description too. -/
def isDescription (s : String) : Bool :=
  match s.toList with
  | [] => true
  | first :: rest =>
      Ascii.isLetter first && decide (s.utf8ByteSize ≤ maxDescriptionSize) &&
        rest.all fun c =>
          Ascii.isAlnum c || Text.isBlank c || c = '-' || c = '.' || c = '_' || c = ','

def sshAlgorithms : List String :=
  ["ssh-rsa", "ssh-ed25519", "ecdsa-sha2-nistp256", "ecdsa-sha2-nistp384",
    "ecdsa-sha2-nistp521"]

/-- The shortest key body, in bytes. -/
def minKeySize : Nat := 64

def isBase64 (c : Char) : Bool := Ascii.isAlnum c || c = '+' || c = '/'

/-- The encoded body of a key, with padding at its end. -/
def isKeyBody (body : String) : Bool :=
  decide (minKeySize ≤ body.utf8ByteSize) &&
    (Text.dropEndWhile (· = '=') body.toList).all isBase64

/-- An algorithm and a body, then anything, separated by white space. -/
def isPublicKey (s : String) : Bool :=
  match Text.words s with
  | algorithm :: body :: _ => sshAlgorithms.contains algorithm && isKeyBody body
  | _ => false

end Blueprint.Grammar
