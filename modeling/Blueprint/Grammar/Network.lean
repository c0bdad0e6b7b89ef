import Blueprint.Number.Decimal
import Blueprint.Text.Blank

/-!
# Network values

IPv4 addresses and address blocks, lists of them separated by commas, and the
port-like numbers of network rules.
-/

namespace Blueprint.Grammar

/-- A decimal octet without leading zeros. -/
def isOctet (cs : List Char) : Bool :=
  match Decimal.readNat cs with
  | some value => decide (value ≤ 255) && (cs.length = 1 || cs.head? ≠ some '0')
  | none => false

/-- Four octets separated by points. -/
def isAddress (cs : List Char) : Bool :=
  match cs.splitOnP (· = '.') with
  | [a, b, c, d] => isOctet a && isOctet b && isOctet c && isOctet d
  | _ => false

/-- The length of a network part: digits, of value 32 at most. -/
def isMaskLength (cs : List Char) : Bool :=
  match Decimal.readNat cs with
  | some value => decide (value ≤ 32)
  | none => false

/-- An address, a slash and the length of the network part. -/
def isBlock (cs : List Char) : Bool :=
  match cs.dropWhile (· ≠ '/') with
  | '/' :: mask => isAddress (cs.takeWhile (· ≠ '/')) && isMaskLength mask
  | _ => false

def isAddressOrBlock (cs : List Char) : Bool := isAddress cs || isBlock cs

/-- Whether every entry between commas, trimmed, is an address or a block. The
empty text has no entries. -/
def isAddressList (s : String) : Bool :=
  s.isEmpty || (s.toList.splitOnP (· = ',')).all fun entry =>
    isAddressOrBlock (Text.trimChars entry)

/-- The port-like fields of network rules. -/
inductive Port
  | portMin
  | portMax
  | sourcePortMin
  | sourcePortMax
  | icmpType
  | icmpCode
  deriving DecidableEq

namespace Port

def lowest : Port → Int
  | portMin | portMax | sourcePortMin | sourcePortMax => 1
  | icmpType | icmpCode => 0

def highest : Port → Int
  | portMin | portMax | sourcePortMin | sourcePortMax => 65535
  | icmpType => 254
  | icmpCode => 255

def field : Port → String
  | portMin => "port_min"
  | portMax => "port_max"
  | sourcePortMin => "source_port_min"
  | sourcePortMax => "source_port_max"
  | icmpType => "type"
  | icmpCode => "code"

def accepts (port : Port) (value : Int) : Bool :=
  decide (port.lowest ≤ value) && decide (value ≤ port.highest)

end Port

end Blueprint.Grammar
