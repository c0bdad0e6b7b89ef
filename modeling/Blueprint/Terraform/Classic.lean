import Blueprint.Terraform.Resolution
import Blueprint.Terraform.Section
import Blueprint.Text.Order

/-!
# Classic infrastructure

The datacenters in ascending order, for each a section of its SSH keys and one of
its VLANs.
-/

namespace Blueprint.Terraform.Classic

def provider : Item := .attr "provider" (.verbatim "ibm.classic")

def keyBlock (key : Record) : Block :=
  let label := snakeCase key.label
  .defining (.resource "ibm_compute_ssh_key" ("classic_ssh_key_" ++ label)) [
    provider,
    .attr "label" (.text key.label),
    .attr "public_key" (.verbatim ("var.classic_" ++ label ++ "_public_key"))]

/-- The frontend router that belongs to the backend router of another VLAN. -/
def frontendRouter (vlan : String) : Expression :=
  .call "replace" [.output (.classicVlan vlan) "router_hostname", .text "b", .text "f"]

def vlanBlock (t : Tree) (vlan : Record) : Block :=
  .defining (.classicVlan vlan.label) <| [
    provider,
    .attr "name" (t.deploymentName vlan.label),
    .attr "datacenter" (.text (vlan.textOr "datacenter" "")),
    .attr "type" (.text (vlan.textOr "type" "")),
    .attr "tags" t.tags] ++
    Item.optional "router_hostname" ((vlan.filled? "router_hostname").map frontendRouter)

/-- The records in a datacenter. -/
def located (datacenter : String) (records : List Record) : List Record :=
  records.filter fun r => r.text? "datacenter" = some datacenter

def datacenters (t : Tree) : List String :=
  Text.distinct ((t.topLevel .classicSshKey ++ t.topLevel .classicVlan).filterMap
    (·.text? "datacenter"))

def datacenterSections (t : Tree) (datacenter : String) : List Section :=
  Section.ofBlocks (titleCase datacenter ++ " SSH Keys")
      ((located datacenter (t.topLevel .classicSshKey)).map keyBlock) ++
    Section.ofBlocks (titleCase datacenter ++ " VLANs")
      ((located datacenter (t.topLevel .classicVlan)).map (vlanBlock t))

def sections (t : Tree) : List Section := (datacenters t).flatMap (datacenterSections t)

end Blueprint.Terraform.Classic
