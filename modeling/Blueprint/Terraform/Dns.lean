import Blueprint.Terraform.Resolution
import Blueprint.Terraform.Section

/-!
# DNS services

A section for each DNS service: its instance, its zones with a permitted network
for each attached VPC, its records, and its resolvers with a location for each
subnet.
-/

namespace Blueprint.Terraform.Dns

def instanceId (dns : String) : Item :=
  .attr "instance_id" (.output (.dns dns) "guid")

def block (t : Tree) (dns : Record) : Block :=
  .defining (.dns dns.label) [
    .attr "name" (variableName (dns.label ++ "-dns-instance")),
    .attr "resource_group_id" (t.resourceGroupOf dns),
    .attr "location" (.text "global"),
    .attr "service" (.text "dns-svcs"),
    .attr "plan" (.text (dns.textOr "plan" "standard")),
    .attr "tags" t.tags]

/-! ## Zones -/

def permittedNetwork (t : Tree) (dns zone vpc : String) : Block :=
  let label := labelOf [dns, "dns permitted network", zone, vpc]
  .defining (.resource "ibm_dns_permitted_network" label) [
    instanceId dns,
    .attr "zone_id" (.output (.dnsZone dns zone) "zone_id"),
    .attr "vpc_crn" (t.vpcOutput vpc "crn"),
    .attr "type" (.text "vpc")]

def zoneBlocks (t : Tree) (dns : String) (zone : Record) : List Block :=
  .defining (.dnsZone dns zone.label) ([
    .attr "name" (.text zone.label),
    instanceId dns] ++
    Item.ofText zone "description" ++ Item.ofText zone "label") ::
    (zone.texts "vpcs").map (permittedNetwork t dns zone.label)

/-- A zone of a DNS service. -/
def zoneId (t : Tree) (dns : String) (zone : Option String) : Expression :=
  match zone.filter fun name => (t.find? .dnsZone (some dns) name).isSome with
  | some name => .output (.dnsZone dns name) "zone_id"
  | none => .unfound

/-! ## Records -/

/-- The first address of the virtual server that a record names. -/
def serverAddress (r : Record) : String :=
  "ibm_is_instance." ++ labelOf [r.textOr "vpc" "", "vpc", r.textOr "vsi" "", "vsi"] ++
    ".primary_network_interface[0].primary_ip[0].address"

def recordData (r : Record) : Expression :=
  if r.flag "use_vsi" then .verbatim (serverAddress r) else .text (r.textOr "rdata" "")

/-- Fields that are written as they are if they are filled. -/
def furtherFields : List String :=
  ["preference", "port", "priority", "weight", "protocol", "service"]

def recordBlock (t : Tree) (dns : String) (r : Record) : Block :=
  .defining (.resource "ibm_dns_resource_record" (labelOf [dns, "dns record", r.label])) <| [
    instanceId dns,
    .attr "zone_id" (zoneId t dns (r.text? "dns_zone")),
    .attr "type" (.text (r.textOr "type" "")),
    .attr "name" (.text r.label),
    .attr "rdata" (recordData r)] ++
    Item.ofField r "ttl" ++
    furtherFields.flatMap (Item.ofFilled r)

/-! ## Resolvers -/

def resolverLocation (vpc subnet : String) : Item :=
  .nested "locations" [
    .attr "subnet_crn" (.output (.subnet vpc subnet) "crn"),
    .attr "enabled" (.bool true)]

def resolverBlock (dns : String) (resolver : Record) : Block :=
  let label := labelOf [dns, "dns resolver", resolver.label]
  .defining (.resource "ibm_dns_custom_resolver" label) <| [
    .attr "name" (variableName resolver.label),
    instanceId dns] ++
    Item.ofText resolver "description" ++ [
    .attr "high_availability" (.bool true),
    .attr "enabled" (.bool true)] ++
    (resolver.texts "subnets").map (resolverLocation (resolver.textOr "vpc" ""))

def blocks (t : Tree) (dns : Record) : List Block :=
  block t dns :: (dns.records "zones").flatMap (zoneBlocks t dns.label) ++
    (dns.records "records").map (recordBlock t dns.label) ++
    (dns.records "custom_resolvers").map (resolverBlock dns.label)

def sections (t : Tree) : List Section :=
  (t.topLevel .dns).map fun dns => ⟨titleCase dns.label ++ " DNS Service", blocks t dns⟩

end Blueprint.Terraform.Dns
