import Blueprint.Schema.Network
import Blueprint.Terraform.Resolution
import Blueprint.Terraform.Section

/-!
# VPCs

A section for each VPC, with its module call, address prefixes, subnets and flow
log collector.
-/

namespace Blueprint.Terraform.Vpcs

/-- The zones in which a subnet has a public gateway, in ascending order. -/
def gatewayZones (vpc : Record) : List Int :=
  let subnets := (vpc.records "subnets").filter (·.flag "public_gateway")
  (subnets.filterMap (·.int? "zone")).eraseDups.mergeSort fun a b => decide (a ≤ b)

/-- The zone of a record, the first one unless it has a whole number. -/
def zoneOf (r : Record) : Int := (r.int? "zone").getD 1

/-- A name that a VPC gives to what it is created with. -/
def optionalName (vpc : Record) (field : String) : List Item :=
  Item.optional field <| (vpc.filled? field).map fun given =>
    variableName (vpc.label ++ "-" ++ given)

def block (t : Tree) (vpc : Record) : Block :=
  .defining (.vpc vpc.label) <| [
    .attr "source" (.text "./vpc"),
    .attr "name" (variableName (vpc.label ++ "-vpc")),
    .attr "region" regionVariable,
    .attr "resource_group_id" (t.resourceGroupOf vpc),
    .attr "classic_access" (.bool (vpc.flag "classic_access")),
    .attr "manual_address_prefix_management"
      (.bool (vpc.flag "manual_address_prefix_management")),
    .attr "public_gateway_zones" (.list ((gatewayZones vpc).map .ofInt)),
    .attr "tags" t.tags] ++
    Vpc.optionalNames.flatMap (optionalName vpc)

def addressPrefix (t : Tree) (vpc entry : Record) : Block :=
  let label := snakeCase vpc.label ++ "_" ++ snakeCase entry.label ++ "_prefix"
  .defining (.resource "ibm_is_vpc_address_prefix" label) [
    .attr "name" (variableName (vpc.label ++ "-" ++ entry.label)),
    .attr "vpc" (t.vpcOutput vpc.label "id"),
    .attr "zone" (zoneName (zoneOf entry)),
    .attr "cidr" (.text (entry.textOr "cidr" ""))]

/-- The public gateway in the zone of a subnet, if the subnet has one. -/
def publicGateway (vpc subnet : Record) : Option Expression :=
  if subnet.flag "public_gateway" then
    some (.output (.vpc vpc.label)
      ("public_gateways[\x22zone-" ++ toString (zoneOf subnet) ++ "\x22]"))
  else none

def subnet (t : Tree) (vpc entry : Record) : Block :=
  .defining (.subnet vpc.label entry.label) <| [
    .attr "vpc" (t.vpcOutput vpc.label "id"),
    .attr "name" (variableName (vpc.label ++ "-" ++ entry.label)),
    .attr "zone" (zoneName (zoneOf entry)),
    .attr "resource_group" (t.resourceGroupOf vpc),
    .attr "ipv4_cidr_block" (.text (entry.textOr "cidr" ""))] ++
    Item.optional "public_gateway" (publicGateway vpc entry) ++ [
    .attr "tags" t.tags]

/-- The flow log collector, if the VPC has a bucket for it. -/
def flowLogs (t : Tree) (vpc : Record) : List Block :=
  match (vpc.filled? "bucket").filter (· ≠ Vpc.logsDisabled) with
  | none => []
  | some bucket => [
      .defining (.resource "ibm_is_flow_log" (snakeCase vpc.label ++ "_flow_log_collector")) [
        .attr "name" (variableName (vpc.label ++ "-vpc-logs")),
        .attr "target" (t.vpcOutput vpc.label "id"),
        .attr "active" (.bool true),
        .attr "storage_bucket" (t.bucketOutput bucket "bucket_name"),
        .attr "resource_group" (t.resourceGroupOf vpc),
        .attr "tags" t.tags]]

def blocks (t : Tree) (vpc : Record) : List Block :=
  block t vpc :: (vpc.records "address_prefixes").map (addressPrefix t vpc) ++
    (vpc.records "subnets").map (subnet t vpc) ++ flowLogs t vpc

def sections (t : Tree) : List Section :=
  (t.topLevel .vpc).map fun vpc => ⟨titleCase (vpc.label ++ " vpc"), blocks t vpc⟩

end Blueprint.Terraform.Vpcs
