import Blueprint.Terraform.Resolution
import Blueprint.Terraform.Section

/-!
# Access groups

A section for each access group with its policies, its rules for membership, and
the invitations it sends.
-/

namespace Blueprint.Terraform.AccessGroups

def groupId (group : String) : Expression := .output (.accessGroup group) "id"

def block (group : Record) : Block :=
  .defining (.accessGroup group.label) <|
    .attr "name" (variableName (group.label ++ "-ag")) :: Item.ofText group "description"

/-- What a policy is about. -/
def policyResources (t : Tree) (resources : Record) : Item :=
  .nested "resources" <|
    Item.optional "resource_group_id"
      ((resources.filled? "resource_group").map fun name => t.resourceGroupId name) ++
    ["resource_type", "resource", "service", "resource_instance_id"].flatMap
      (Item.ofText resources)

def policyBlock (t : Tree) (group : String) (policy : Record) : Block :=
  let label := labelOf [group, policy.label, "policy"]
  .defining (.resource "ibm_iam_access_group_policy" label) <| [
    .attr "access_group_id" (groupId group),
    .attr "roles" (.texts (policy.texts "roles"))] ++
    ((policy.object? "resources").map (policyResources t)).toList

/-- A part of a rule's condition, the empty text if it is not given. -/
def condition (entry : Record) (field : String) : Item :=
  .attr field (.text (((entry.object? "conditions").bind (Record.text? · field)).getD ""))

def ruleBlock (group : String) (entry : Record) : Block :=
  let label := labelOf [group, entry.label, "dynamic rule"]
  .defining (.resource "ibm_iam_access_group_dynamic_rule" label) <| [
    .attr "name" (variableName (group ++ "-" ++ entry.label ++ "-dynamic-rule")),
    .attr "access_group_id" (groupId group)] ++
    Item.ofField entry "expiration" ++ [
    .attr "identity_provider" (.text (entry.textOr "identity_provider" "")),
    .nested "conditions" (["claim", "operator", "value"].map (condition entry))]

/-- The users that a group invites. -/
def invitedUsers (group : Record) : List String :=
  if group.flag "has_invites" then
    ((group.object? "invites").map (Record.texts · "ibm_ids")).getD []
  else []

/-- The invitations of a group, if it invites anybody. -/
def invites (group : Record) : List Block :=
  let users := invitedUsers group
  if users.isEmpty then []
  else [
    .defining (.resource "ibm_iam_user_invite" (snakeCase group.label ++ "_invites")) [
      .attr "users" (.texts users),
      .attr "access_groups" (.list [groupId group.label])]]

def blocks (t : Tree) (group : Record) : List Block :=
  block group :: (group.records "policies").map (policyBlock t group.label) ++
    (group.records "dynamic_policies").map (ruleBlock group.label) ++ invites group

def sections (t : Tree) : List Section :=
  (t.topLevel .accessGroup).map fun group =>
    ⟨titleCase group.label ++ " Access Group", blocks t group⟩

end Blueprint.Terraform.AccessGroups
