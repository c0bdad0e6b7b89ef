import Blueprint.Grammar.Prose
import Blueprint.Schema.Field

/-!
# Classic infrastructure

SSH keys and VLANs of the older infrastructure, which belong to datacenters. A
VLAN may name another one, whose router it shares.
-/

namespace Blueprint.Classic

def datacenters : List String := [
  "ams03", "che01", "dal10", "dal12", "dal13", "fra02", "fra04", "fra05", "lon04", "lon05",
  "lon06", "mil01", "mon01", "osl01", "par01", "sao01", "sjc03", "sjc04", "syd04", "syd05",
  "tok02", "tok04", "tok05", "tor01", "wdc04", "wdc06", "wdc07"]

def datacenter : Field :=
  { Field.choice "datacenter" datacenters with
    invalid := fun r _ => r.isMissing "datacenter"
    invalidText := fun _ _ => "Select a datacenter" }

def keySchema : Schema :=
  { kind := .classicSshKey
    fields := [
      .named,
      { name := "public_key"
        invalid := fun r _ => !Grammar.isPublicKey (r.textOr "public_key" "")
        invalidText := fun _ _ => "Provide a valid SSH public key" },
      datacenter]
    requirements := [.valid ["name", "public_key", "datacenter"]] }

def vlanTypes : List String := ["PUBLIC", "PRIVATE"]

/-- The other VLANs in the datacenter of a VLAN. -/
def neighbours (r : Record) (situation : Situation) : List String :=
  ((situation.tree.topLevel .classicVlan).filter fun vlan =>
    vlan.text? "datacenter" = r.text? "datacenter" && vlan.name? ≠ r.name?).filterMap
    Record.name?

def vlanSchema : Schema :=
  { kind := .classicVlan
    references := [.one "router_hostname" .classicVlan]
    fields := [
      .named,
      datacenter,
      { Field.choice "type" vlanTypes with
        invalid := fun r _ => !(r.text? "type").any vlanTypes.contains
        invalidText := fun _ _ => "Select a VLAN type" },
      { name := "router_hostname", optional := true, choices := neighbours }]
    requirements := [.valid ["name", "datacenter", "type"]] }

end Blueprint.Classic
