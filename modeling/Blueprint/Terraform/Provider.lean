import Blueprint.Number.Decimal
import Blueprint.Terraform.Resolution
import Blueprint.Terraform.Section

/-!
# Providers

The provider of the region, one for classic infrastructure if that is enabled,
and one for each Power VS zone if Power VS is enabled.
-/

namespace Blueprint.Terraform.Provider

def timeout : Expression := .ofInt 60

/-- Beginnings of zones that name their own region. -/
def regionalZones : List String := ["lon", "syd", "tok", "osa", "sao"]

def usEastZones : List String := ["us-east", "wdc06", "wdc07"]

def madridZones : List String := ["mad02", "mad04"]

/-- Whether a zone is `start` with a number behind it. -/
def isNumbered (start zone : String) : Bool :=
  match Text.afterStart start.toList zone.toList with
  | some digits => !digits.isEmpty && digits.all Decimal.isDigit
  | none => false

/-- The region of a Power VS zone in a deployment of some region. -/
def powerRegion (zone region : String) : Expression :=
  match regionalZones.find? (isNumbered · zone) with
  | some start => .text start
  | none =>
      if region ≠ "us-east" && usEastZones.contains zone then .text "us-east"
      else if isNumbered "dal" zone then .text "us-south"
      else if madridZones.contains zone then .text "mad"
      else regionVariable

def regional : Block :=
  .provider "ibm" [
    .attr "ibmcloud_api_key" (.verbatim "var.ibmcloud_api_key"),
    .attr "region" regionVariable,
    .attr "ibmcloud_timeout" timeout]

def classic : Block :=
  .provider "ibm" [
    .attr "alias" (.text "classic"),
    .attr "ibmcloud_timeout" timeout,
    .attr "iaas_classic_username" (.verbatim "var.iaas_classic_username"),
    .attr "iaas_classic_api_key" (.verbatim "var.iaas_classic_api_key")]

def power (t : Tree) (zone : String) : Block :=
  .provider "ibm" [
    .attr "alias" (.text (snakeCase ("power_vs_" ++ zone))),
    .attr "ibmcloud_api_key" (.verbatim "var.ibmcloud_api_key"),
    .attr "region" (powerRegion zone t.region),
    .attr "zone" (.text zone),
    .attr "ibmcloud_timeout" timeout]

def powerZones (t : Tree) : List String :=
  ((t.single? .options).map (·.texts "power_vs_zones")).getD []

def blocks (t : Tree) : List Block :=
  regional ::
    (if t.hasOption "enable_classic" then [classic] else []) ++
    (if t.hasOption "enable_power_vs" then (powerZones t).map (power t) else [])

def sections (t : Tree) : List Section := Section.ofBlocks "IBM Cloud Provider" (blocks t)

end Blueprint.Terraform.Provider
