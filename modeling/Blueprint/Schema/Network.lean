import Blueprint.Grammar.Entries
import Blueprint.Grammar.Network
import Blueprint.Grammar.Prose
import Blueprint.Schema.Field

/-!
# Networks

Virtual private clouds with their subnets, security groups with their rules, SSH
keys, and transit gateways, whose connections always carry the gateway's name.
-/

namespace Blueprint

namespace Vpc

/-- The bucket of a VPC whose traffic is not logged. -/
def logsDisabled : String := "$disabled"

/-- Names that a VPC may give to what it is created with. -/
def optionalNames : List String :=
  ["default_network_acl_name", "default_security_group_name", "default_routing_table_name"]

/-- Whether any of the optional names has a wrong form. -/
def optionalNamesInvalid (r : Record) : Bool :=
  (optionalNames.filterMap r.filled?).any fun name => !Grammar.isRecordName name

def optionalName (name : String) : Field :=
  { name, optional := true, invalid := fun r _ => optionalNamesInvalid r }

/-- A subnet of a new deployment: a tier in a zone, with the tier's place among
the tiers deciding its addresses. -/
def initialSubnet (vpc : String) (block place zone : Nat) (tier : String) : Value :=
  .object (Record.ofFields [
    ("vpc", .text vpc), ("zone", .ofInt zone),
    ("cidr", .text ("10." ++ toString (block + (zone - 1) * 10) ++ "." ++
      toString ((place + 1) * 10) ++ ".0/24")),
    ("name", .text (tier ++ "-zone-" ++ toString zone)),
    ("public_gateway", .bool false)])

/-- The subnets of a zone; the private network tier has one in the first zone
only. -/
def initialZone (vpc : String) (block : Nat) (tiers : List String) (zone : Nat) : List Value :=
  (tiers.zipIdx.filter fun (tier, _) => tier ≠ "vpn" || zone = 1).map fun (tier, place) =>
    initialSubnet vpc block place zone tier

def initialVpc (name group : String) (block : Nat) (tiers : List String) : Value :=
  .object (Record.ofFields [
    ("name", .text name), ("resource_group", .text group), ("bucket", .text logsDisabled),
    ("classic_access", .bool false), ("manual_address_prefix_management", .bool false),
    ("default_network_acl_name", .null), ("default_security_group_name", .null),
    ("default_routing_table_name", .null),
    ("subnets", .list ([1, 2, 3].flatMap (initialZone name block tiers)))])

def schema : Schema :=
  { kind := .vpc
    defaults := [("subnets", .list [])]
    seed := some (.list [
      initialVpc "management" "management-rg" 10 ["vsi", "vpe", "vpn"],
      initialVpc "workload" "workload-rg" 40 ["vsi", "vpe"]])
    references := [
      .resourceGroup,
      { Reference.one "bucket" .bucket with keep := some logsDisabled }]
    fields := [
      .namedWithHelp,
      .resourceGroup,
      .entry "bucket" logsDisabled,
      .switch "classic_access" false,
      .switch "manual_address_prefix_management" false,
      optionalName "default_network_acl_name",
      optionalName "default_security_group_name",
      optionalName "default_routing_table_name"]
    requirements := [
      .filled ["bucket", "resource_group"],
      .valid ["name", "default_network_acl_name"]] }

/-- The numbers of the availability zones. -/
def zones : Limits := ⟨1, 3⟩

def subnetSchema : Schema :=
  { kind := .subnet
    parentLink := some "vpc"
    fields := [
      .named,
      { name := "cidr"
        invalid := fun r _ => !Grammar.isBlock (r.textOr "cidr" "").toList
        invalidText := fun _ _ => "Invalid CIDR block" },
      { Field.quantity "zone" zones with
        invalid := fun r _ => r.isMissing "zone" || !zones.accepts (r.get? "zone") },
      .switch "public_gateway" false]
    requirements := [.valid ["name", "cidr", "zone"]] }

end Vpc

namespace SecurityGroup

def schema : Schema :=
  { kind := .securityGroup
    defaults := [("rules", .list [])]
    references := [.resourceGroup, .one "vpc" .vpc]
    fields := [.namedWithHelp, .resourceGroup, .selector "vpc" .vpc]
    requirements := [.valid ["name"], .filled ["resource_group", "vpc"]] }

def protocols : List String := ["all", "tcp", "udp", "icmp"]

/-- The port-like fields that a protocol gives meaning to. -/
def portsOf (protocol : String) : List Grammar.Port :=
  match protocol with
  | "icmp" => [.icmpType, .icmpCode]
  | "tcp" | "udp" => [.portMin, .portMax]
  | _ => []

/-- Whether a port-like field holds what it may; zero counts as nothing. -/
def portValid (r : Record) (port : Grammar.Port) : Bool :=
  (r.get? port.field).any Value.isZeroQuantity ||
    (Limits.mk port.lowest port.highest).accepts (r.get? port.field)

/-- Whether the port-like fields of a rule's protocol hold what they may. -/
def portsValid (r : Record) : Bool :=
  (portsOf (r.textOr "protocol" "all")).all (portValid r)

def ruleSchema : Schema :=
  { kind := .securityRule
    parentLink := some "sg"
    fields := [
      .named,
      { Field.choice "direction" ["inbound", "outbound"] with
        initial := some (.text "inbound") },
      { name := "source"
        invalid := fun r _ => !Grammar.isAddressOrBlock (r.textOr "source" "").toList
        invalidText := fun _ _ => "Invalid source IP or CIDR" },
      { Field.choice "protocol" protocols with initial := some (.text "all") }]
    requirements := [.valid ["name", "source"], .passes portsValid] }

end SecurityGroup

namespace SshKey

def schema : Schema :=
  { kind := .sshKey
    references := [.resourceGroup]
    fields := [
      .namedWithHelp,
      .resourceGroup,
      .imported,
      { name := "public_key"
        invalid := fun r _ => !r.flag "use_data" &&
          !Grammar.isPublicKey (r.textOr "public_key" "")
        invalidText := fun _ _ => "Provide a unique SSH public key"
        hidden := (·.flag "use_data") }]
    requirements := [.filled ["resource_group"], .valid ["name", "public_key"]] }

end SshKey

namespace TransitGateway

/-- Sets a field in every record of a list. -/
def setInEach (field : String) (value : Value) : Value → Value
  | .list items => .list (items.map fun
      | .object r => .object (Record.insert field value r)
      | item => item)
  | other => other

/-- Puts the gateway's name on its connections. -/
def addressConnections (r : Record) : Record :=
  match r.name? with
  | some name => Record.modify "connections" (setInEach "tgw" (.text name)) r
  | none => r

def schema : Schema :=
  { kind := .transitGateway
    defaults := [("connections", .list [])]
    saved := fun tree _ merged => (tree, addressConnections merged)
    references := [.resourceGroup, { path := .each "connections" "vpc", target := .vpc }]
    fields := [
      .namedWithHelp,
      .imported,
      { Field.resourceGroup with hidden := (·.flag "use_data") },
      { Field.switch "global" false with hidden := (·.flag "use_data") },
      { name := "connections", initial := some (.list []), choices := namesOf .vpc },
      { name := "crns"
        optional := true
        invalid := fun r _ => !(r.texts "crns").all Grammar.isResourceName
        invalidText := fun _ _ => "Enter a valid comma separated list of CRNs" }]
    requirements := [
      .filledUnless "use_data" ["resource_group"],
      .valid ["name", "crns"]] }

end TransitGateway

end Blueprint
