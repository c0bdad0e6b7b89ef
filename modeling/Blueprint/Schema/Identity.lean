import Blueprint.Schema.DisplayForm
import Blueprint.Schema.Field
import Blueprint.Grammar.Network
import Blueprint.Grammar.Url

/-!
# Identity and access

The account settings, which are cleared when they are turned off, and access
groups with their policies, rules and invitations. A group's invitations always
carry the group's name.
-/

namespace Blueprint

namespace AccountSettings

def isOff (r : Record) : Bool := !r.flag "enable"

def restrictions : List String := ["RESTRICTED", "NOT_RESTRICTED", "NOT_SET"]

def maxSessions : Limits := ⟨1, 10⟩

/-- Seconds until a session expires. -/
def expiration : Limits := ⟨900, 86400⟩

/-- Seconds of idleness until a session ends. -/
def invalidation : Limits := ⟨900, 7200⟩

/-- Settings that stay when the account settings are turned off. -/
def keptWhenOff : List String := ["enable", "include_history"]

/-- Clears the settings that were just turned off. -/
def saved (tree : Tree) (stored merged : Record) : Tree × Record :=
  if stored.flag "enable" && isOff merged then
    (tree, merged.map fun (field, value) =>
      (field, if keptWhenOff.contains field then value else .null))
  else (tree, merged)

def fields : List Field := [
  .switch "enable" false,
  { Field.choice "mfa" ["NONE", "TOTP", "TOTP4ALL", "LEVEL1", "LEVEL2", "LEVEL3"] with
    hidden := isOff },
  { name := "allowed_ip_addresses"
    optional := true
    invalid := fun r _ => !Grammar.isAddressList (r.textOr "allowed_ip_addresses" "")
    invalidText := fun _ _ => "Enter a comma separated list of IP addresses or CIDR blocks"
    hidden := isOff },
  { Field.switch "include_history" false with hidden := isOff },
  { name := "if_match", optional := true, hidden := isOff },
  { Field.boundedQuantity "max_sessions_per_identity" maxSessions with hidden := isOff },
  { Field.choice "restrict_create_service_id" restrictions with hidden := isOff },
  { Field.choice "restrict_create_platform_apikey" restrictions with hidden := isOff },
  { Field.quantity "session_expiration_in_seconds" expiration with
    optional := true
    hidden := isOff },
  { Field.quantity "session_invalidation_in_seconds" invalidation with
    optional := true
    hidden := isOff }]

def schema : Schema :=
  { kind := .accountSettings
    seed := some (.object (Record.ofFields [
      ("enable", .bool false), ("mfa", .null), ("allowed_ip_addresses", .null),
      ("include_history", .bool false), ("if_match", .null),
      ("max_sessions_per_identity", .null), ("restrict_create_service_id", .null),
      ("restrict_create_platform_apikey", .null), ("session_expiration_in_seconds", .null),
      ("session_invalidation_in_seconds", .null)]))
    saved
    fields
    requirements := [
      .filled ["mfa", "restrict_create_platform_apikey", "restrict_create_service_id",
        "max_sessions_per_identity"],
      .valid ["allowed_ip_addresses", "max_sessions_per_identity",
        "session_expiration_in_seconds", "session_invalidation_in_seconds"]] }

end AccountSettings

namespace AccessGroup

/-- Puts the group's name on its invitations, which are created if absent. -/
def nameInvitations (r : Record) : Record :=
  match r.object? "invites" with
  | some invites => r.insert "invites" (.object (Record.insert "group" (.text r.label) invites))
  | none => r.insert "invites" (.object [("group", .text r.label), ("ibm_ids", .list [])])

def schema : Schema :=
  { kind := .accessGroup
    defaults := [("policies", .list []), ("dynamic_policies", .list []),
      ("has_invites", .bool false)]
    created := nameInvitations
    saved := fun tree _ merged => (tree, nameInvitations merged)
    fields := [
      .namedWithHelp,
      { name := "description", optional := true },
      .switch "has_invites" false]
    requirements := [.valid ["name"]] }

def policySchema : Schema :=
  { kind := .accessPolicy
    parentLink := some "group"
    references := [{ path := .inside "resources" "resource_group", target := .resourceGroup }]
    fields := [
      .namedWithHelp,
      { name := "roles", initial := some (.list []) },
      { name := "resources", optional := true },
      { name := "resource_group", optional := true, choices := namesOf .resourceGroup }]
    requirements := [.valid ["name"]] }

/-! ## Dynamic rules -/

/-- Hours until a membership expires. -/
def expiration : Limits := ⟨1, 24⟩

/-- Condition operators as stored. -/
def operators : List String :=
  ["EQUALS", "EQUALS_IGNORE_CASE", "IN", "NOT_EQUALS_IGNORE_CASE", "NOT_EQUALS", "CONTAINS"]

/-- Sets a part of the condition, which is created if absent. -/
def insertCondition (field : String) (value : Value) (r : Record) : Record :=
  let conditions := (r.object? "conditions").getD []
  r.insert "conditions" (.object (Record.insert field value conditions))

/-- Copies a field of the form into the condition. -/
def copyToCondition (field : String) (r : Record) : Record :=
  insertCondition field ((r.get? field).getD .null) r

/-- The operator of the condition, as stored. -/
def conditionOperator (r : Record) : String :=
  ((r.object? "conditions").bind (·.text? "operator")).getD ""

def ruleSchema : Schema :=
  { kind := .dynamicPolicy
    parentLink := some "group"
    fields := [
      .named,
      { name := "identity_provider"
        invalid := fun r _ => r.isMissing "identity_provider" ||
          !Grammar.Url.isWebAddress (r.textOr "identity_provider" "")
        invalidText := fun _ _ => "Enter a valid identity provider URI" },
      .quantity "expiration" expiration,
      { name := "claim", entered := copyToCondition "claim" },
      { Field.choice "operator" (operators.map DisplayForm.operatorDisplay) with
        entered := fun r =>
          insertCondition "operator" (.text (DisplayForm.operatorStored (r.textOr "operator" ""))) r
        shown := fun r => DisplayForm.operatorDisplay (conditionOperator r) },
      { name := "value", entered := copyToCondition "value" }]
    requirements := [
      .filled ["identity_provider", "expiration", "conditions"],
      .valid ["name", "identity_provider", "expiration"]] }

end AccessGroup

end Blueprint
