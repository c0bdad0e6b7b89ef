import Blueprint.Grammar.Network
import Blueprint.Grammar.Prose
import Blueprint.Schema.Field

/-!
# Name service

DNS instances with their zones, resource records and custom resolvers. What a
resource record has to hold depends on its type.
-/

namespace Blueprint.Dns

def description : Field :=
  { name := "description"
    optional := true
    invalid := fun r _ => !Grammar.isDescription (r.textOr "description" "")
    invalidText := fun _ _ => "Invalid description" }

def schema : Schema :=
  { kind := .dns
    defaults := [("zones", .list []), ("records", .list []), ("custom_resolvers", .list [])]
    references := [.resourceGroup]
    fields := [
      .named,
      { name := "resource_group", choices := namesOf .resourceGroup },
      { Field.choice "plan" ["free", "standard"] with initial := some (.text "standard") }]
    requirements := [.valid ["name"], .filled ["resource_group"]] }

def zoneSchema : Schema :=
  { kind := .dnsZone
    parentLink := some "instance"
    references := [.many "vpcs" .vpc]
    fields := [
      .named,
      { name := "vpcs"
        initial := some (.list [])
        invalid := fun r _ => r.isMissing "vpcs"
        invalidText := fun _ _ => "Select at least one VPC"
        choices := namesOf .vpc },
      { name := "label", invalid := fun r _ => r.isMissing "label" },
      description]
    requirements := [.valid ["name", "vpcs", "label", "description"]] }

/-! ## Resource records -/

def recordTypes : List String := ["A", "AAAA", "CNAME", "MX", "PTR", "SRV", "TXT"]

/-- Seconds that a resource record may be kept. -/
def timeToLive : Limits := ⟨60, 2147483647⟩

def smallNumber : Limits := ⟨0, 65535⟩

def portNumber : Limits := ⟨1, 65535⟩

/-- What a service record has to hold. -/
def serviceFields : List String := ["port", "protocol", "priority", "service", "weight"]

def typeOf (r : Record) : String := r.textOr "type" ""

def notService (r : Record) : Bool := typeOf r ≠ "SRV"

/-- Whether a record points at a virtual server. -/
def pointsAtServer (r : Record) : Bool := r.flag "use_vsi"

/-- Whether a record holds what its type asks for. -/
def contentValid (r : Record) : Bool :=
  match typeOf r with
  | "A" => pointsAtServer r || (r.text? "rdata").any fun data => Grammar.isAddress data.toList
  | "MX" => !r.isUnset "preference"
  | "SRV" => !serviceFields.any r.isMissing
  | _ => true

/-- A field that is filled when a record points at a virtual server. -/
def ofServer (name : String) : Field :=
  { name
    invalid := fun r _ => pointsAtServer r && r.isMissing name
    hidden := fun r => !pointsAtServer r }

def recordFields : List Field := [
  .named,
  .choice "type" recordTypes,
  { name := "dns_zone"
    choices := fun _ situation => situation.tree.names .dnsZone situation.op.parent },
  { name := "rdata", hidden := pointsAtServer },
  { Field.quantity "ttl" timeToLive with initial := some (.ofInt 300) },
  { Field.quantity "preference" smallNumber with hidden := fun r => typeOf r ≠ "MX" },
  { Field.quantity "port" portNumber with hidden := notService },
  { Field.quantity "priority" smallNumber with hidden := notService },
  { Field.quantity "weight" smallNumber with hidden := notService },
  { Field.choice "protocol" ["udp", "tcp"] with hidden := notService },
  { name := "service"
    invalid := fun r _ => (r.filled? "service").any fun service =>
      service.toList.head? ≠ some '_'
    invalidText := fun _ _ => "Service must start with an underscore"
    hidden := notService },
  .switch "use_vsi" false,
  { ofServer "vpc" with choices := namesOf .vpc },
  ofServer "vsi"]

def recordSchema : Schema :=
  { kind := .dnsRecord
    references := [
      (Reference.one "dns_zone" .dnsZone).under .sibling,
      .one "vpc" .vpc]
    fields := recordFields
    requirements := [
      .filled ["type", "dns_zone"],
      .filledUnless "use_vsi" ["rdata"],
      .valid ["name", "ttl", "preference", "port", "priority", "weight", "service", "vpc",
        "vsi"],
      .passes contentValid] }

/-! ## Custom resolvers -/

/-- The subnets of the VPC that a resolver names. -/
def subnetChoices (r : Record) (situation : Situation) : List String :=
  match r.filled? "vpc" with
  | some vpc => situation.tree.names .subnet (some vpc)
  | none => []

def resolverSchema : Schema :=
  { kind := .dnsResolver
    parentLink := some "instance"
    references := [
      .one "vpc" .vpc,
      (Reference.many "subnets" .subnet).under (.underField "vpc"),
      (Reference.one "zone" .dnsZone).under .sibling]
    fields := [
      .named,
      { name := "vpc", invalid := fun r _ => r.isMissing "vpc", choices := namesOf .vpc },
      { name := "subnets"
        initial := some (.list [])
        invalid := fun r _ => r.isMissing "subnets"
        choices := subnetChoices },
      { name := "zone", optional := true, initial := some .null },
      description]
    requirements := [.valid ["name", "vpc", "subnets", "description"]] }

end Blueprint.Dns
