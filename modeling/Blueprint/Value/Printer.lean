import Blueprint.Number.Written
import Blueprint.Text.Join
import Blueprint.Value

/-!
# Printed values

The compact and the indented text of a value. Texts escape quotes, backslashes
and control characters only.
-/

namespace Blueprint

namespace Number

def written : Number → String
  | integer value => toString value
  | double value => value.written

end Number

namespace Value

/-- A hexadecimal digit in lower case. -/
def hexDigit (n : Nat) : Char := (Nat.digitChar n)

/-- One character inside a quoted text. -/
def escapeChar (c : Char) : List Char :=
  if c = '\x22' || c = '\x5c' then ['\x5c', c]
  else if c = '\x08' then ['\x5c', 'b']
  else if c = '\x09' then ['\x5c', 't']
  else if c = '\x0a' then ['\x5c', 'n']
  else if c = '\x0c' then ['\x5c', 'f']
  else if c = '\x0d' then ['\x5c', 'r']
  else if c.toNat < 0x20 then
    ['\x5c', 'u', '0', '0', hexDigit (c.toNat / 16), hexDigit (c.toNat % 16)]
  else [c]

def quoted (s : String) : String :=
  String.ofList ('\x22' :: s.toList.flatMap escapeChar ++ ['\x22'])

mutual

/-- The text of a value without white space. -/
def compact : Value → String
  | .null => "null"
  | .bool true => "true"
  | .bool false => "false"
  | .number value => value.written
  | .text value => quoted value
  | .list items => "[" ++ Text.join "," (compactItems items) ++ "]"
  | .object fields => "\x7b" ++ Text.join "," (compactFields fields) ++ "\x7d"

def compactItems : List Value → List String
  | [] => []
  | item :: rest => compact item :: compactItems rest

def compactFields : List (String × Value) → List String
  | [] => []
  | (key, value) :: rest => (quoted key ++ ":" ++ compact value) :: compactFields rest

end

/-- Entries on lines of their own between two brackets. -/
def indentedBody (opening closing : String) (depth : Nat) : List String → String
  | [] => opening ++ closing
  | entries =>
      let inner := Text.spaces (2 * (depth + 1))
      opening ++ "\n" ++ Text.join ",\n" (entries.map (inner ++ ·)) ++ "\n" ++
        Text.spaces (2 * depth) ++ closing

mutual

/-- The text of a value with one entry a line, two spaces further in at each
level. -/
def indented (depth : Nat) : Value → String
  | .list items => indentedBody "[" "]" depth (indentedItems (depth + 1) items)
  | .object fields => indentedBody "\x7b" "\x7d" depth (indentedFields (depth + 1) fields)
  | .null => "null"
  | .bool true => "true"
  | .bool false => "false"
  | .number value => value.written
  | .text value => quoted value

def indentedItems (depth : Nat) : List Value → List String
  | [] => []
  | item :: rest => indented depth item :: indentedItems depth rest

def indentedFields (depth : Nat) : List (String × Value) → List String
  | [] => []
  | (key, value) :: rest =>
      (quoted key ++ ": " ++ indented depth value) :: indentedFields depth rest

end

end Value

end Blueprint
