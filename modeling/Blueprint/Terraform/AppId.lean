import Blueprint.Terraform.Resolution
import Blueprint.Terraform.Section

/-!
# App ID

One section of all App ID instances, each with its keys.
-/

namespace Blueprint.Terraform.AppId

def block (t : Tree) (appId : Record) : Block :=
  .defining (.appId appId) <| [
    .attr "name" (nameOf appId),
    .attr "resource_group_id" (t.resourceGroupOf appId),
    .attr "service" (.text "appid")] ++
    if appId.flag "use_data" then []
    else [
      .attr "plan" (.text "graduated-tier"),
      .attr "location" regionVariable,
      .attr "tags" t.tags]

def keyBlock (t : Tree) (appId key : Record) : Block :=
  .defining (.resource "ibm_resource_key" (labelOf [appId.label, "key", key.label])) [
    .attr "name" (variableName (appId.label ++ "-" ++ key.label ++ "-key")),
    .attr "resource_instance_id" (.output (.appId appId) "id"),
    .attr "role" (.text "Writer"),
    .attr "tags" t.tags]

def blocks (t : Tree) (appId : Record) : List Block :=
  block t appId :: (appId.records "keys").map (keyBlock t appId)

def sections (t : Tree) : List Section :=
  Section.ofBlocks "App ID" ((t.topLevel .appId).flatMap (blocks t))

end Blueprint.Terraform.AppId
