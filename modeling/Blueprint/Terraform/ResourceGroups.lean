import Blueprint.Terraform.Resolution
import Blueprint.Terraform.Section

/-!
# Resource groups

A group that exists already is read by its name; any other is created with the
tags of the deployment, and carries the prefix where it asks for it.
-/

namespace Blueprint.Terraform.ResourceGroups

/-- The group as a resource, or as a data source when it exists already. -/
def block (t : Tree) (group : Record) : Block :=
  let name := group.label
  .defining (.resourceGroup group) <|
    if group.flag "use_data" then [.attr "name" (.text name)]
    else [
      .attr "name" (if group.flag "use_prefix" then variableName name else .text name),
      .attr "tags" t.tags]

/-- One section holds every group. -/
def sections (t : Tree) : List Section :=
  Section.ofBlocks "Resource Groups" ((t.topLevel .resourceGroup).map (block t))

end Blueprint.Terraform.ResourceGroups
