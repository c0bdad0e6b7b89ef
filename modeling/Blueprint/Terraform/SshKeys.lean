import Blueprint.Terraform.Resolution
import Blueprint.Terraform.Section

/-!
# SSH keys

A key that exists already is read by its name. The material of a new one is never
written out: it comes from a variable named after the key.
-/

namespace Blueprint.Terraform.SshKeys

/-- The key as a resource, or as a data source when it exists already. -/
def block (t : Tree) (key : Record) : Block :=
  let name := key.label
  .defining (.sshKey key) <|
    if key.flag "use_data" then [.attr "name" (.text name)]
    else [
      .attr "name" (variableName name),
      .attr "public_key" (.verbatim ("var." ++ snakeCase name ++ "_public_key")),
      .attr "resource_group" (t.resourceGroupOf key),
      .attr "tags" t.tags]

/-- One section holds every key. -/
def sections (t : Tree) : List Section :=
  Section.ofBlocks "SSH Keys" ((t.topLevel .sshKey).map (block t))

end Blueprint.Terraform.SshKeys
