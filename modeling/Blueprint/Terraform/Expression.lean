import Blueprint.Text.Join
import Blueprint.Value.Printer

/-!
# Expressions

The right-hand sides of attributes. An expression that depends on something the
document defines holds its address as data; what is defined elsewhere, such as a
variable, is held as text.
-/

namespace Blueprint.Terraform

/-- What a block of a document defines, or what an expression takes to be
defined. -/
inductive Address
  | resource (type label : String)
  | data (type label : String)
  | module (label : String)
  deriving DecidableEq

namespace Address

def text : Address → String
  | resource type label => type ++ "." ++ label
  | data type label => "data." ++ type ++ "." ++ label
  | module label => "module." ++ label

end Address

inductive Expression
  /-- A quoted text. -/
  | text (value : String)
  /-- A text that is written as it is. -/
  | verbatim (value : String)
  | bool (value : Bool)
  | number (value : Number)
  | list (items : List Expression)
  /-- An output of what the document defines at an address. -/
  | output (address : Address) (name : String)
  | call (function : String) (arguments : List Expression)
  /-- Stands for a reference whose target does not exist. -/
  | unfound

/-- One character inside a quoted text. -/
def escapeChar (c : Char) : List Char :=
  if c = '\x22' || c = '\x5c' then ['\x5c', c]
  else if c = '\n' then ['\x5c', 'n']
  else [c]

def quoted (s : String) : String :=
  String.ofList ('\x22' :: s.toList.flatMap escapeChar ++ ['\x22'])

/-- What a reference without a target is written as. -/
def unfoundMarker : String := "ERROR: Unfound Ref"

namespace Expression

mutual

def render : Expression → String
  | text value => quoted value
  | verbatim value => value
  | bool true => "true"
  | bool false => "false"
  | number value => value.written
  | list items => "[" ++ Text.join ", " (renderAll items) ++ "]"
  | output address name => address.text ++ "." ++ name
  | call function arguments =>
      function ++ "(" ++ Text.join ", " (renderAll arguments) ++ ")"
  | unfound => quoted unfoundMarker

def renderAll : List Expression → List String
  | [] => []
  | item :: rest => item.render :: renderAll rest

end

def ofInt (value : Int) : Expression := number (.integer value)

/-- A list of quoted texts. -/
def texts (items : List String) : Expression := list (items.map text)

mutual

/-- The expression for a stored value; null has none. A record becomes the text
of its compact form. -/
def ofValue? : Value → Option Expression
  | .null => none
  | .bool value => some (bool value)
  | .number value => some (number value)
  | .text value => some (text value)
  | .list items => some (list (ofValues items))
  | .object fields => some (text (Value.compact (.object fields)))

def ofValues : List Value → List Expression
  | [] => []
  | item :: rest =>
      match ofValue? item with
      | some expression => expression :: ofValues rest
      | none => ofValues rest

end

/-- The expression for a field; one that is absent or null has none. -/
def ofField? (r : Record) (field : String) : Option Expression :=
  (r.get? field).bind ofValue?

/-- The expression for a field that is filled; one that is absent, null or the
empty text has none. -/
def ofFilled? (r : Record) (field : String) : Option Expression :=
  ((r.get? field).filter (!·.isBlank)).bind ofValue?

end Expression

/-- The text that stands for the value of an expression inside a quoted text. -/
def interpolated (expression : String) : String := "$\x7b" ++ expression ++ "\x7d"

end Blueprint.Terraform
