import Blueprint.Terraform.Resolution
import Blueprint.Terraform.Section

/-!
# Security groups

A section for each security group with its rules. A rule's ports, or its type and
code, stand in a block named for its protocol.
-/

namespace Blueprint.Terraform.SecurityGroups

def block (t : Tree) (group : Record) : Block :=
  .defining (.securityGroup group) [
    .attr "name" (variableName (group.label ++ "-sg")),
    .attr "vpc" (t.vpcOutput (group.text? "vpc") "id"),
    .attr "resource_group" (t.resourceGroupOf group),
    .attr "tags" t.tags]

/-- The fields that a protocol uses. -/
def protocolFields (protocol : String) : List String :=
  if protocol = "tcp" || protocol = "udp" then ["port_min", "port_max"]
  else if protocol = "icmp" then ["type", "code"]
  else []

def protocolItems (protocol : String) (entry : Record) : List Item :=
  let fields := protocolFields protocol
  if fields.isEmpty then []
  else [
    .nested protocol (fields.flatMap (Item.ofFilled entry))]

def ruleLabel (group entry : Record) : String :=
  labelOf [group.textOr "vpc" "", "vpc", group.label, "sg"] ++ "_rule_" ++
    snakeCase entry.label

def rule (group entry : Record) : Block :=
  .defining (.resource "ibm_is_security_group_rule" (ruleLabel group entry)) <| [
    .attr "group" (.output (.securityGroup group) "id"),
    .attr "remote" (.text (entry.textOr "source" "")),
    .attr "direction" (.text (entry.textOr "direction" "inbound"))] ++
    protocolItems (entry.textOr "protocol" "all") entry

def blocks (t : Tree) (group : Record) : List Block :=
  block t group :: (group.records "rules").map (rule group)

def sections (t : Tree) : List Section :=
  (t.topLevel .securityGroup).map fun group =>
    ⟨titleCase (group.label ++ " security group"), blocks t group⟩

end Blueprint.Terraform.SecurityGroups
